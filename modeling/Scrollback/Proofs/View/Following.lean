import Scrollback.Proofs.View.Run

/-!
Where a view scrolls.

A view keeps a window, the time of its last request and the length of the last reply,
and its window reports in several ways that messages have come in. All of it comes
down to the passes that were made: whether a pass scrolls, and how, is decided by the
last request, the last number of messages and the last reply that its records show
(`scroll_pass`).
-/

namespace Scrollback

namespace Scroll

/-- What is due goes to the last row. -/
theorem target_due {throttle : Nat} {lastAt : Option Nat} {moreMessages replyGrew : Bool}
    {now : Nat} {bottom : Option RowKey} {request : Request}
    (made : due throttle lastAt moreMessages replyGrew now bottom = some request) :
    bottom = some request.target := by
  cases bottom with
  | none => cases made
  | some target =>
      cases lastAt with
      | none =>
          cases made
          rfl
      | some last =>
          simp only [due] at made
          split at made
          · cases made
            rfl
          · split at made
            · cases made
              rfl
            · cases made

/-- Before the first request it makes no difference whether messages have come in. -/
theorem due_congr {lastAt : Option Nat} {more more' : Bool}
    (same : ∀ last, lastAt = some last → more = more') (throttle : Nat) (replyGrew : Bool)
    (now : Nat) (bottom : Option RowKey) :
    due throttle lastAt more replyGrew now bottom =
      due throttle lastAt more' replyGrew now bottom := by
  cases lastAt with
  | none =>
      cases bottom with
      | none => rfl
      | some target => rfl
  | some last => rw [same last rfl]

end Scroll

namespace Viewing.Coherent

variable {conversation : String} {s : Settings} {u : Viewing}

/-- Once a request has been made, the window reports growth exactly when there are more
messages than at the last pass. -/
theorem isGrowth_eq (coherent : u.Coherent conversation s) {last : Nat}
    (made : View.lastRequestAt u.records = some last) (messages : List Message) :
    (u.view.window.sync messages.length).1.isGrowth =
      decide (View.lastCount u.records < messages.length) := by
  have isOpen : u.view.window.isOpen = true := by
    rw [coherent.isOpen_eq]
    cases records : u.records with
    | nil => simp [records, View.lastRequestAt] at made
    | cons r earlier => rfl
  rw [Window.isGrowth_sync isOpen, coherent.total_eq]

/-- The request of a pass is the one that is due by the records. -/
theorem scroll_eq_due (coherent : u.Coherent conversation s) (messages : List Message)
    (buffer : Option Stream.Buffer) (now : Nat) :
    (u.pass messages buffer now).scroll =
      Scroll.due s.throttle (View.lastRequestAt u.records)
        (View.lastCount u.records < messages.length)
        (View.lastReplyLength conversation u.records < View.replyLength conversation buffer) now
        ((u.pass messages buffer now).rows.getLast?.map (·.row.key)) := by
  have scroll : (u.pass messages buffer now).scroll =
      (u.view.followAt messages buffer now).1 := rfl
  have bottom : (u.pass messages buffer now).rows.getLast?.map (·.row.key) =
      (u.view.rowsAt messages buffer).getLast?.map Row.key :=
    View.getLast?_render u.view u.cache messages buffer now
  rw [scroll, bottom, coherent.followAt_eq]
  exact Scroll.due_congr (fun last made => coherent.isGrowth_eq made messages) ..

end Viewing.Coherent

/-- Whether a pass scrolls, and how, is a matter of the passes before it: of the time of
the last one that made a request, and of how many messages and how long a reply the last
one was given. A request goes to the last row of its own pass. -/
theorem scroll_pass (conversation : String) (s : Settings) (cache : Attachment.Cache)
    (calls : List View.Call) (messages : List Message) (buffer : Option Stream.Buffer)
    (now : Nat) :
    let u := (Viewing.start conversation s cache).run calls
    let pass := u.pass messages buffer now
    pass.scroll =
        Scroll.due s.throttle (View.lastRequestAt u.records)
          (View.lastCount u.records < messages.length)
          (View.lastReplyLength conversation u.records < View.replyLength conversation buffer)
          now (pass.rows.getLast?.map (·.row.key)) ∧
      ∀ request, pass.scroll = some request →
        pass.rows.getLast?.map (·.row.key) = some request.target := by
  intro u pass
  have due := (Viewing.coherent_run conversation s cache calls).scroll_eq_due messages buffer now
  refine ⟨due, ?_⟩
  intro request made
  exact Scroll.target_due (due.symm.trans made)

end Scrollback
