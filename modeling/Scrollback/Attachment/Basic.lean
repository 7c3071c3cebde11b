/-!
Messages with attached texts.

The content of a message is a row of segments: text, and references to attached
texts by their labels. The attached texts are the bodies, held under their labels
in ascending order, one for each label (`Bodies.put`).
-/

namespace Scrollback.Attachment

/-- A stretch of text, or a reference to an attached text by its label. -/
inductive Segment where
  | text (text : String)
  | reference (label : String)
  deriving DecidableEq, Repr

namespace Segment

/-- A segment as it stands in the message: a reference in square brackets. -/
def written : Segment → String
  | text t => t
  | reference label => "[" ++ label ++ "]"

end Segment

/-- Attached texts under their labels, in ascending order of the labels. -/
abbrev Bodies := List (String × String)

namespace Bodies

/-- Put a text under a label, in place of the one that stands there. -/
def put (label body : String) : Bodies → Bodies
  | [] => [(label, body)]
  | (l, b) :: rest =>
      if label = l then (label, body) :: rest
      else if label < l then (label, body) :: (l, b) :: rest
      else (l, b) :: put label body rest

/-- The text under a label. -/
def get? : Bodies → String → Option String
  | [], _ => none
  | (l, b) :: rest, label => if label = l then some b else get? rest label

/-- Whether there is a text under a label. -/
def contains (bodies : Bodies) (label : String) : Bool :=
  (get? bodies label).isSome

/-- The bodies of labelled texts, a later one in place of an earlier one with its
label. -/
def ofSections (sections : List (String × String)) : Bodies :=
  sections.foldl (fun bodies s => bodies.put s.1 s.2) []

/-- A text put under a label is the one found there; other labels keep theirs. -/
theorem get?_put (bodies : Bodies) (label body key : String) :
    (bodies.put label body).get? key = if key = label then some body else bodies.get? key := by
  induction bodies with
  | nil => rfl
  | cons head rest ih =>
    obtain ⟨l, b⟩ := head
    unfold put
    split
    · rename_i same
      subst same
      simp only [get?]
      split <;> rfl
    · rename_i other
      split
      · rfl
      · simp only [get?, ih]
        split
        · rename_i eq
          rw [if_neg (eq ▸ Ne.symm other)]
        · rfl

end Bodies

/-- The content of a message: its segments and the texts attached to it. -/
structure Parsed where
  segments : List Segment
  bodies : Bodies
  deriving DecidableEq, Repr

namespace Parsed

/-- Content without attached texts. -/
def plain (content : String) : Parsed :=
  ⟨[.text content], []⟩

/-- Whether any text is attached. -/
def hasAttachments (p : Parsed) : Bool :=
  !p.bodies.isEmpty

/-- The message as it is written, references in square brackets. -/
def written (p : Parsed) : String :=
  String.join (p.segments.map Segment.written)

end Parsed

end Scrollback.Attachment
