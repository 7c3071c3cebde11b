import Mathlib.Data.List.Basic
import Scrollback.Scroll

/-!
How often a display scrolls.

A follower is told that its display appears, that messages have been added and that a
reply has grown, in any order and at any times. All it keeps of this is when it last
answered with a request (`Follower.lastAt_run`). A request after a growing reply stays
away from every request before it (`Follower.pairwise_granted`), so that only so many of
them fall into a stretch of time (`Follower.stream_throttled`).
-/

namespace Scrollback.Scroll

/-- What a follower is told, and when. -/
inductive Notice where
  | appeared (bottom : Option RowKey) (now : Nat)
  | tailGrew (bottom : RowKey) (now : Nat)
  | streamGrew (bottom : RowKey) (now : Nat)
  deriving DecidableEq, Repr

namespace Notice

/-- When a follower is told. -/
def now : Notice → Nat
  | appeared _ now => now
  | tailGrew _ now => now
  | streamGrew _ now => now

/-- Whether a notice is about a growing reply. -/
def isStream : Notice → Bool
  | appeared _ _ => false
  | tailGrew _ _ => false
  | streamGrew _ _ => true

end Notice

namespace Follower

/-- What a follower answers to a notice, and the state after it. -/
def act (f : Follower) : Notice → Option Request × Follower
  | .appeared bottom now => f.appear bottom now
  | .tailGrew bottom now =>
      let (request, f) := f.tailGrew bottom now
      (some request, f)
  | .streamGrew bottom now => f.streamGrew bottom now

/-- The state after some notices. -/
def run (f : Follower) (notices : List Notice) : Follower :=
  notices.foldl (fun f n => (f.act n).2) f

/-- The notices that are answered with a request, in their order. -/
def granted (f : Follower) : List Notice → List Notice
  | [] => []
  | n :: rest =>
      if (f.act n).1.isSome then n :: (f.act n).2.granted rest else (f.act n).2.granted rest

/-! ### One notice -/

/-- A growing reply is followed unless the throttle has not passed since the last request. -/
theorem isThrottled_eq_false_iff (f : Follower) (now : Nat) :
    f.isThrottled now = false ↔ ∀ last, f.lastAt = some last → f.throttle ≤ now - last := by
  unfold isThrottled
  cases f.lastAt with
  | none => simp
  | some last => simp

/-- What becomes of a notice: it is refused and changes nothing, or it is answered and its
time is kept. A growing reply is answered only when the throttle has passed. -/
inductive Acts (f : Follower) (n : Notice) : Option Request × Follower → Prop
  | refused : Acts f n (none, f)
  | granted (request : Request) (hasAppeared : Bool)
      (due : n.isStream = true → ∀ last, f.lastAt = some last → f.throttle ≤ n.now - last) :
      Acts f n (some request, { f with hasAppeared, lastAt := some n.now })

theorem isSome_streamGrew_iff (f : Follower) (bottom : RowKey) (now : Nat) :
    (f.streamGrew bottom now).1.isSome = true ↔ f.isThrottled now = false := by
  unfold streamGrew
  cases f.isThrottled now with
  | true => simp
  | false => simp

theorem acts (f : Follower) (n : Notice) : f.Acts n (f.act n) := by
  cases n with
  | appeared bottom now =>
      cases bottom with
      | none => exact .refused
      | some target =>
          simp only [act, appear]
          split
          · exact .refused
          · exact .granted _ true (by simp [Notice.isStream])
  | tailGrew bottom now => exact .granted _ f.hasAppeared (by simp [Notice.isStream])
  | streamGrew bottom now =>
      simp only [act, streamGrew]
      split
      · exact .refused
      · rename_i free
        have due := (f.isThrottled_eq_false_iff now).mp (Bool.eq_false_iff.mpr free)
        exact .granted _ f.hasAppeared (fun _ => due)

/-- A refused notice leaves the follower as it was. -/
theorem act_of_refused {f : Follower} {n : Notice} (refused : (f.act n).1 = none) :
    (f.act n).2 = f := by
  have acts := f.acts n
  generalize f.act n = result at acts refused ⊢
  cases acts with
  | refused => rfl
  | granted request hasAppeared due => cases refused

/-! ### Many notices -/

theorem granted_sublist (f : Follower) (notices : List Notice) :
    (f.granted notices).Sublist notices := by
  induction notices generalizing f with
  | nil => exact .slnil
  | cons n rest ih =>
      rw [granted]
      split
      · exact (ih _).cons_cons n
      · exact (ih _).cons n

/-- A follower keeps its throttle, and the time of the last notice that it answered. -/
theorem lastAt_run (f : Follower) (notices : List Notice) :
    (f.run notices).throttle = f.throttle ∧
      (f.run notices).lastAt = ((f.granted notices).getLast?.map Notice.now).or f.lastAt := by
  induction notices generalizing f with
  | nil => exact ⟨rfl, rfl⟩
  | cons n rest ih =>
      have acts := f.acts n
      simp only [run, List.foldl_cons, granted]
      generalize f.act n = result at acts
      cases acts with
      | refused => exact ih f
      | granted request hasAppeared due =>
          obtain ⟨throttle, lastAt⟩ := ih { f with hasAppeared, lastAt := some n.now }
          refine ⟨throttle, Eq.trans lastAt ?_⟩
          simp only [Option.isSome_some, if_true, List.getLast?_cons]
          cases (granted { f with hasAppeared, lastAt := some n.now } rest).getLast? with
          | none => rfl
          | some last => rfl

section Spacing

variable {f : Follower} {notices : List Notice}

/-- After a request at some time a growing reply is answered no sooner than the throttle
later, as long as no other notice comes from before that time. -/
theorem late_granted (positive : 0 < f.throttle) {time last : Nat} (lastAt : f.lastAt = some last)
    (since : time ≤ last) (forward : ∀ n ∈ notices, n.isStream = true ∨ time ≤ n.now) :
    ∀ n ∈ f.granted notices, n.isStream = true → time + f.throttle ≤ n.now := by
  induction notices generalizing f last with
  | nil =>
      intro n mem
      cases mem
  | cons first rest ih =>
      have restForward : ∀ n ∈ rest, n.isStream = true ∨ time ≤ n.now := by
        intro n mem
        exact forward n (List.mem_cons_of_mem first mem)
      have acts := f.acts first
      rw [granted]
      generalize f.act first = result at acts
      cases acts with
      | refused => exact ih positive lastAt since restForward
      | granted request hasAppeared due =>
          -- The clock may go back only where the throttle keeps the time of a request ahead.
          have firstSince : time ≤ first.now := by
            rcases forward first List.mem_cons_self with stream | forward
            · have apart := due stream last lastAt
              omega
            · exact forward
          intro n mem stream
          rcases List.mem_cons.mp mem with rfl | later
          · have apart := due stream last lastAt
            omega
          · exact ih (f := { f with hasAppeared, lastAt := some first.now }) positive rfl
              firstSince restForward n later stream

/-- A request after a growing reply comes no sooner than the throttle after any request
before it, as long as the clock goes back at no other notice. -/
theorem pairwise_granted (positive : 0 < f.throttle)
    (forward : notices.Pairwise fun a b => b.isStream = true ∨ a.now ≤ b.now) :
    (f.granted notices).Pairwise fun earlier later =>
      later.isStream = true → earlier.now + f.throttle ≤ later.now := by
  induction notices generalizing f with
  | nil => exact .nil
  | cons first rest ih =>
      obtain ⟨firstForward, restForward⟩ := List.pairwise_cons.mp forward
      have acts := f.acts first
      rw [granted]
      generalize f.act first = result at acts
      cases acts with
      | refused => exact ih positive restForward
      | granted request hasAppeared due =>
          refine List.pairwise_cons.mpr ⟨?_, ?_⟩
          · exact late_granted (f := { f with hasAppeared, lastAt := some first.now }) positive rfl
              (Nat.le_refl first.now) firstForward
          · exact ih (f := { f with hasAppeared, lastAt := some first.now }) positive restForward

end Spacing

/-! ### How many fit in -/

section Counting

variable {gap : Nat} {times : List Nat}

/-- Times that are spaced out take up the gaps between them. -/
theorem add_length_mul_le {first stop : Nat}
    (spaced : (first :: times).Pairwise fun a b => a + gap ≤ b)
    (inside : ∀ time ∈ first :: times, time ≤ stop) : first + times.length * gap ≤ stop := by
  induction times generalizing first with
  | nil => simpa using inside first List.mem_cons_self
  | cons next rest ih =>
      obtain ⟨apart, restSpaced⟩ := List.pairwise_cons.mp spaced
      have step : first + gap ≤ next := apart next List.mem_cons_self
      have restInside : ∀ time ∈ next :: rest, time ≤ stop := by
        intro time mem
        exact inside time (List.mem_cons_of_mem first mem)
      calc first + (rest.length + 1) * gap
          = first + gap + rest.length * gap := by rw [Nat.succ_mul]; omega
        _ ≤ next + rest.length * gap := Nat.add_le_add_right step _
        _ ≤ stop := ih restSpaced restInside

/-- Of times that are spaced out, a stretch holds one and as many more as it has gaps. -/
theorem length_le_of_spaced (positive : 0 < gap) {start span : Nat}
    (spaced : times.Pairwise fun a b => a + gap ≤ b)
    (inside : ∀ time ∈ times, start ≤ time ∧ time ≤ start + span) :
    times.length ≤ span / gap + 1 := by
  cases times with
  | nil => exact Nat.zero_le _
  | cons first rest =>
      have taken : first + rest.length * gap ≤ start + span :=
        add_length_mul_le spaced fun time mem => (inside time mem).2
      have begun : start ≤ first := (inside first List.mem_cons_self).1
      have fits : rest.length ≤ span / gap := by
        rw [Nat.le_div_iff_mul_le positive]
        omega
      exact Nat.succ_le_succ fits

/-- Of notices of a growing reply that are spaced out, a stretch of time holds one and as
many more as it has gaps. -/
theorem countP_stream_le (positive : 0 < gap) {notices : List Notice}
    (apart : notices.Pairwise fun earlier later =>
      later.isStream = true → earlier.now + gap ≤ later.now) (first span : Nat) :
    (notices.countP fun n => n.isStream && first ≤ n.now && n.now ≤ first + span) ≤
      span / gap + 1 := by
  set within : Notice → Bool := fun n => n.isStream && first ≤ n.now && n.now ≤ first + span
  have within_iff : ∀ n, within n = true ↔
      n.isStream = true ∧ first ≤ n.now ∧ n.now ≤ first + span := by
    intro n
    simp [within, and_assoc]
  have spaced : ((notices.filter within).map Notice.now).Pairwise fun a b => a + gap ≤ b := by
    refine List.pairwise_map.mpr ((apart.sublist List.filter_sublist).imp_of_mem ?_)
    intro earlier later _ mem far
    exact far ((within_iff later).mp (List.mem_filter.mp mem).2).1
  have inside : ∀ time ∈ (notices.filter within).map Notice.now,
      first ≤ time ∧ time ≤ first + span := by
    intro time mem
    obtain ⟨n, nMem, rfl⟩ := List.mem_map.mp mem
    exact ((within_iff n).mp (List.mem_filter.mp nMem).2).2
  have fits := length_le_of_spaced positive spaced inside
  rwa [List.length_map, ← List.countP_eq_length_filter] at fits

end Counting

/-- A growing reply is followed exactly when no request has been made yet or the throttle
has passed since the last one, of whatever kind, and a notice that is refused changes
nothing. So under a throttle, while the clock does not go back, a request after a growing
reply comes no sooner than the throttle after any request before it, and a stretch of time
holds only as many of them as it has room for. While only a reply grows, its requests are
apart even if the clock goes back. -/
theorem stream_throttled (throttle : Nat) (notices : List Notice) :
    let start : Follower := { throttle }
    let f := start.run notices
    let granted := start.granted notices
    (∀ bottom now, (f.streamGrew bottom now).1.isSome = true ↔
        granted = [] ∨ ∃ last, granted.getLast? = some last ∧ throttle ≤ now - last.now) ∧
      (∀ n, (f.act n).1 = none → (f.act n).2 = f) ∧
      (0 < throttle →
        (notices.Pairwise (fun a b => a.now ≤ b.now) →
          (granted.Pairwise fun earlier later =>
            later.isStream = true → earlier.now + throttle ≤ later.now) ∧
          ∀ first span,
            (granted.countP fun n => n.isStream && first ≤ n.now && n.now ≤ first + span) ≤
              span / throttle + 1) ∧
        ∀ stretch : List Notice, (∀ n ∈ stretch, n.isStream = true) →
          (f.granted stretch).Pairwise fun earlier later =>
            earlier.now + throttle ≤ later.now) := by
  intro start f granted
  have same : f.throttle = throttle := (start.lastAt_run notices).1
  have lastAt : f.lastAt = granted.getLast?.map Notice.now := by
    rw [(start.lastAt_run notices).2, Option.or_none]
  refine ⟨?_, fun n => act_of_refused, ?_⟩
  · intro bottom now
    rw [isSome_streamGrew_iff, isThrottled_eq_false_iff, lastAt, same]
    cases last : granted.getLast? with
    | none => simp [List.getLast?_eq_none_iff.mp last]
    | some n =>
        have made : granted ≠ [] := by
          intro none
          simp [none] at last
        simp [made]
  · intro positive
    constructor
    · intro ordered
      have apart := pairwise_granted (f := start) positive (ordered.imp Or.inr)
      exact ⟨apart, countP_stream_le positive apart⟩
    · intro stretch streams
      have free : stretch.Pairwise fun a b => b.isStream = true ∨ a.now ≤ b.now :=
        List.pairwise_of_forall_mem_list fun a _ b mem => Or.inl (streams b mem)
      have apart := pairwise_granted (f := f) (same.symm ▸ positive) free
      rw [same] at apart
      refine apart.imp_of_mem ?_
      intro earlier later _ mem far
      exact far (streams later ((f.granted_sublist stretch).subset mem))

/-- A display appears while it already follows a reply, and then the clock is set back. -/
theorem stream_throttled_sample :
    let start : Follower := { throttle := 100 }
    let reply : RowKey := .stream "conv"
    let notices : List Notice := [.appeared none 0, .streamGrew reply 10, .streamGrew reply 60,
      .appeared (some reply) 70, .streamGrew reply 110, .streamGrew reply 170,
      .tailGrew (.message "m1") 170, .streamGrew reply 270]
    let stretch : List Notice := [.streamGrew reply 370, .streamGrew reply 20,
      .streamGrew reply 400, .streamGrew reply 470]
    (0 < 100 ∧ notices.Pairwise fun a b => a.now ≤ b.now) ∧ (∀ n ∈ stretch, n.isStream = true) ∧
      (start.granted notices).map Notice.now = [10, 70, 170, 170, 270] ∧
      ((start.granted notices).countP fun n => n.isStream && 70 ≤ n.now && n.now ≤ 70 + 200) ≤
        200 / 100 + 1 ∧
      ((start.run notices).granted stretch).map Notice.now = [370, 470] ∧
      ((start.run notices).granted stretch).Pairwise fun earlier later =>
        earlier.now + 100 ≤ later.now := by
  intro start reply notices stretch
  have ordered : notices.Pairwise fun a b => a.now ≤ b.now := by decide
  have streams : ∀ n ∈ stretch, n.isStream = true := by decide
  obtain ⟨inOrder, alone⟩ := (stream_throttled 100 notices).2.2 (by decide)
  exact ⟨⟨by decide, ordered⟩, streams, by decide, (inOrder ordered).2 70 200, by decide,
    alone stretch streams⟩

end Follower

end Scrollback.Scroll
