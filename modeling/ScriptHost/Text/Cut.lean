/-!
# Cutting texts by bytes

Places in a text are told by the number of UTF-8 bytes before them.  A place inside a character is
none at which a text can be cut.
-/

namespace ScriptHost.Text

/-- The number of bytes that characters take. -/
def byteLength (cs : List Char) : Nat := cs.foldr (fun c n => c.utf8Size + n) 0

/-- What follows a number of bytes. -/
def dropBytes? : Nat → List Char → Option (List Char)
  | 0, cs => some cs
  | _ + 1, [] => none
  | n + 1, c :: rest =>
    if c.utf8Size ≤ n + 1 then dropBytes? (n + 1 - c.utf8Size) rest else none

/-- The characters that make up a number of bytes. -/
def takeBytes? : Nat → List Char → Option (List Char)
  | 0, _ => some []
  | _ + 1, [] => none
  | n + 1, c :: rest =>
    if c.utf8Size ≤ n + 1 then (takeBytes? (n + 1 - c.utf8Size) rest).map (c :: ·) else none

/-- What lies between two places. -/
def between? (first last : Nat) (cs : List Char) : Option (List Char) :=
  (dropBytes? first cs).bind (takeBytes? (last - first))

@[simp] theorem byteLength_nil : byteLength [] = 0 := rfl

@[simp] theorem byteLength_cons (c : Char) (cs : List Char) :
    byteLength (c :: cs) = c.utf8Size + byteLength cs := rfl

/-- A place between two characters can be cut at. -/
theorem dropBytes?_append (before after : List Char) :
    dropBytes? (byteLength before) (before ++ after) = some after := by
  induction before with
  | nil => cases after <;> rfl
  | cons c cs ih =>
    have := c.utf8Size_pos
    obtain ⟨n, hn⟩ : ∃ n, byteLength (c :: cs) = n + 1 := ⟨c.utf8Size + byteLength cs - 1, by
      simp only [byteLength_cons]; omega⟩
    have hle : c.utf8Size ≤ n + 1 := by simp only [byteLength_cons] at hn; omega
    have hsub : n + 1 - c.utf8Size = byteLength cs := by simp only [byteLength_cons] at hn; omega
    rw [hn, List.cons_append, dropBytes?, if_pos hle, hsub, ih]

theorem takeBytes?_append (before after : List Char) :
    takeBytes? (byteLength before) (before ++ after) = some before := by
  induction before with
  | nil => cases after <;> rfl
  | cons c cs ih =>
    have := c.utf8Size_pos
    obtain ⟨n, hn⟩ : ∃ n, byteLength (c :: cs) = n + 1 := ⟨c.utf8Size + byteLength cs - 1, by
      simp only [byteLength_cons]; omega⟩
    have hle : c.utf8Size ≤ n + 1 := by simp only [byteLength_cons] at hn; omega
    have hsub : n + 1 - c.utf8Size = byteLength cs := by simp only [byteLength_cons] at hn; omega
    rw [hn, List.cons_append, takeBytes?, if_pos hle, hsub, ih]
    rfl

end ScriptHost.Text
