import ScriptHost.Proofs.Listing.Lines

/-!
# Listings are read back

`read` goes through the lines of a listing and collects the entries under the heading that it has
seen last.  It gives back every listing whose declarations fit on lines (`read_render`), so that the
text determines the listing (`listing_faithful`).
-/

namespace ScriptHost

namespace Listing

/-! ## The reader -/

/-- The listing with more entries at the end of a section. -/
def extend (listing : Listing) (part : Part) (more : List String) : Listing :=
  match part with
  | .callbackTypes => { listing with callbackTypes := listing.callbackTypes ++ more }
  | .functions => { listing with functions := listing.functions ++ more }
  | .events => { listing with events := listing.events ++ more }

@[simp] theorem extend_nil (listing : Listing) (part : Part) : listing.extend part [] = listing := by
  cases part <;> simp [extend]

@[simp] theorem extend_extend (listing : Listing) (part : Part) (more last : List String) :
    (listing.extend part more).extend part last = listing.extend part (more ++ last) := by
  cases part <;> simp [extend]

/-- The section that a line is the heading of. -/
def headed? (line : String) : Option Part :=
  Part.all.find? fun part => headingLine part = line

/-- The entry that stands on a line. -/
def entryOf? (line : String) : Option String :=
  match line.toList with
  | ' ' :: ' ' :: ' ' :: ' ' :: rest =>
    if rest.getLast? = some ';' then some (String.ofList rest.dropLast) else none
  | _ => none

/-- What has been read so far, and the section that is being read. -/
structure Reader where
  part? : Option Part
  listing : Listing

/-- A heading begins a section, and an entry belongs to the section begun last. -/
def Reader.readLine (reader : Reader) (line : String) : Reader :=
  match headed? line with
  | some part => { reader with part? := some part }
  | none =>
    match reader.part?, entryOf? line with
    | some part, some entry => { reader with listing := reader.listing.extend part [entry] }
    | _, _ => reader

def Reader.readLines (reader : Reader) (lines : List String) : Reader :=
  lines.foldl readLine reader

/-- Reads a listing from its lines without the first. -/
def readBody (lines : List String) : Listing :=
  let name := String.ofList ((lines.getD 1 "").toList.drop "namespace ".length)
  ((⟨none, new name⟩ : Reader).readLines (lines.drop 2)).listing

/-- Reads a listing from its text. -/
def read (text : String) : Listing :=
  readBody (linesOf text).tail

/-! ## Single lines -/

theorem headed?_headingLine (part : Part) : headed? (headingLine part) = some part := by
  cases part <;> decide

theorem headed?_entryLine (entry : String) : headed? (entryLine entry) = none := by
  rw [headed?, List.find?_eq_none]
  intro part _
  simpa using headingLine_ne_entryLine part entry

theorem entryOf?_entryLine (entry : String) : entryOf? (entryLine entry) = some entry := by
  have hlist : (entryLine entry).toList
      = ' ' :: ' ' :: ' ' :: ' ' :: (entry.toList ++ [';']) := by
    simp [entryLine, indent]
  rw [entryOf?, hlist]
  simp

namespace Reader

theorem readLine_heading (reader : Reader) (part : Part) :
    reader.readLine (headingLine part) = { reader with part? := some part } := by
  rw [readLine, headed?_headingLine]

theorem readLine_entry (listing : Listing) (part : Part) (entry : String) :
    (⟨some part, listing⟩ : Reader).readLine (entryLine entry)
      = ⟨some part, listing.extend part [entry]⟩ := by
  rw [readLine, headed?_entryLine, entryOf?_entryLine]

/-- Other lines are passed over. -/
theorem readLine_other (reader : Reader) {line : String} (h : headed? line = none)
    (hentry : entryOf? line = none) : reader.readLine line = reader := by
  rw [readLine, h, hentry]
  cases reader.part? <;> rfl

theorem readLine_empty (reader : Reader) : reader.readLine "" = reader :=
  reader.readLine_other (by decide) (by decide)

/-! ## Several lines -/

theorem readLines_append (reader : Reader) (lines more : List String) :
    reader.readLines (lines ++ more) = (reader.readLines lines).readLines more :=
  List.foldl_append

theorem readLines_entries (listing : Listing) (part : Part) (entries : List String) :
    (⟨some part, listing⟩ : Reader).readLines (entries.map entryLine)
      = ⟨some part, listing.extend part entries⟩ := by
  induction entries generalizing listing with
  | nil => simp [readLines]
  | cons entry rest ih =>
    have hfirst : (⟨some part, listing⟩ : Reader).readLines ((entry :: rest).map entryLine)
        = (⟨some part, listing.extend part [entry]⟩ : Reader).readLines (rest.map entryLine) := by
      rw [List.map_cons, readLines, List.foldl_cons, readLine_entry]
      rfl
    rw [hfirst, ih, extend_extend, List.singleton_append]

/-- Empty lines do not matter. -/
theorem readLines_filter (reader : Reader) (lines : List String) :
    reader.readLines (lines.filter (· ≠ "")) = reader.readLines lines := by
  induction lines generalizing reader with
  | nil => rfl
  | cons line rest ih =>
    by_cases hempty : line = ""
    · rw [List.filter_cons_of_neg (by simpa using hempty), ih, hempty, readLines, readLines,
        List.foldl_cons, readLine_empty]
    · rw [List.filter_cons_of_pos (by simpa using hempty)]
      exact ih (reader.readLine line)

/-- The sections add their entries, whichever of them are there. -/
theorem readLines_parts (listing : Listing) (parts : List Part) (reader : Reader) :
    (reader.readLines (parts.filterMap listing.partLines?).flatten).listing
      = parts.foldl (fun read part => read.extend part (listing.entries part)) reader.listing := by
  induction parts generalizing reader with
  | nil => rfl
  | cons part rest ih =>
    rw [List.foldl_cons, List.filterMap_cons, partLines?]
    by_cases hnone : listing.entries part = []
    · -- a section without entries is not there
      rw [hnone, extend_nil]
      exact ih reader
    · have hsome : (listing.entries part).isEmpty = false := by simpa using hnone
      have hpart : reader.readLines
          (headingLine part :: (listing.entries part).map entryLine)
          = ⟨some part, reader.listing.extend part (listing.entries part)⟩ := by
        rw [readLines, List.foldl_cons, readLine_heading]
        exact readLines_entries _ part _
      rw [hsome]
      simp only [Bool.false_eq_true, if_false, List.flatten_cons]
      rw [readLines_append, hpart, ih]

end Reader

/-! ## The whole text -/

theorem readBody_bodyLines (listing : Listing) :
    readBody (listing.bodyLines ++ [""]) = listing := by
  have hname : String.ofList (("namespace " ++ listing.namespaceName).toList.drop "namespace ".length)
      = listing.namespaceName := by
    have hlength : "namespace ".toList.length = "namespace ".length := by decide
    rw [String.toList_append, List.drop_left' hlength, String.ofList_toList]
  have hline : (listing.bodyLines ++ [""]).getD 1 "" = "namespace " ++ listing.namespaceName := rfl
  have hdrop : (listing.bodyLines ++ [""]).drop 2
      = ["\x7b"] ++ ([""].intercalate (Part.all.filterMap listing.partLines?) ++ ["\x7d", ""]) := by
    simp [bodyLines]
  have hopening : ∀ reader : Reader, reader.readLines ["\x7b"] = reader := by
    intro reader
    have hbrace : reader.readLine "\x7b" = reader := reader.readLine_other (by decide) (by decide)
    exact hbrace
  have hclosing : ∀ reader : Reader, reader.readLines ["\x7d", ""] = reader := by
    intro reader
    have hbrace : reader.readLine "\x7d" = reader := reader.readLine_other (by decide) (by decide)
    rw [Reader.readLines, List.foldl_cons, hbrace]
    exact reader.readLine_empty
  simp only [readBody, hline, hname, hdrop]
  rw [Reader.readLines_append, Reader.readLines_append, hopening, hclosing,
    ← Reader.readLines_filter, filter_intercalate, Reader.readLines_filter, Reader.readLines_parts]
  rfl

/-- A listing is read back from its text. -/
theorem read_render {listing : Listing} (h : listing.OnLines) {time : String}
    (htime : IsLine time) : read (listing.render time) = listing := by
  rw [read, linesOf_render h htime, List.tail_cons, readBody_bodyLines]

/-- What follows the first line of a text. -/
def afterFirstLine (text : String) : String :=
  String.ofList (text.toList.dropWhile (· ≠ '\n')).tail

theorem afterFirstLine_append {line : String} (h : IsLine line) (text : String) :
    afterFirstLine (line ++ "\n" ++ text) = text := by
  have hline : ∀ c ∈ line.toList, decide (c ≠ '\n') = true := by
    intro c hc
    rw [decide_eq_true_iff]
    rintro rfl
    exact h hc
  have hlist : (line ++ "\n" ++ text).toList = line.toList ++ '\n' :: text.toList := by simp
  have hdrop : (line.toList ++ '\n' :: text.toList).dropWhile (· ≠ '\n') = '\n' :: text.toList := by
    rw [List.dropWhile_append_of_pos hline]
    rfl
  rw [afterFirstLine, hlist, hdrop, List.tail_cons, String.ofList_toList]

theorem afterFirstLine_render (listing : Listing) {time : String} (htime : IsLine time) :
    afterFirstLine (listing.render time) = listing.renderBody :=
  afterFirstLine_append (isLine_stamp htime) _

/-- Listings with one body are one listing. -/
theorem renderBody_injective {listing other : Listing} (h : listing.OnLines)
    (hother : other.OnLines) (heq : listing.renderBody = other.renderBody) : listing = other := by
  have hlines : listing.bodyLines ++ [""] = other.bodyLines ++ [""] := by
    rw [← linesOf_unlines h.isLine, ← linesOf_unlines hother.isLine, ← renderBody_eq_unlines,
      ← renderBody_eq_unlines, heq]
  rw [← readBody_bodyLines listing, hlines, readBody_bodyLines]

/-- A listing is faithful to its declarations: it is read back from its text, in which the first line
does not count.  Each declaration has as many lines as it is listed times, and a section one heading,
or none if nothing is listed in it. -/
theorem listing_faithful {listing other : Listing} {time otherTime : String}
    (h : listing.OnLines) (hother : other.OnLines) (htime : IsLine time)
    (hotherTime : IsLine otherTime) :
    read (listing.render time) = listing ∧
    (afterFirstLine (listing.render time) = afterFirstLine (other.render otherTime) ↔
      listing.namespaceName = other.namespaceName ∧
        listing.callbackTypes = other.callbackTypes ∧ listing.functions = other.functions ∧
        listing.events = other.events) ∧
    (∀ entry, (linesOf (listing.render time)).count (entryLine entry)
      = listing.callbackTypes.count entry + listing.functions.count entry
        + listing.events.count entry) ∧
    ∀ part, (linesOf (listing.render time)).count (headingLine part)
      = if listing.entries part = [] then 0 else 1 := by
  refine ⟨read_render h htime, ?_, ?_, ?_⟩
  · rw [afterFirstLine_render listing htime, afterFirstLine_render other hotherTime]
    constructor
    · intro heq
      rw [renderBody_injective h hother heq]
      exact ⟨rfl, rfl, rfl, rfl⟩
    · rintro ⟨hname, hcallbacks, hfunctions, hevents⟩
      unfold renderBody
      rw [hname, hcallbacks, hfunctions, hevents]
  · intro entry
    have hindented : (entryLine entry).toList.head? = some ' ' := by simp [entryLine, indent]
    rw [count_linesOf h htime hindented]
    simp only [Part.all, List.flatMap_cons, List.flatMap_nil, List.count_append, count_entryLine]
    simp [entries, Nat.add_assoc]
  · intro part
    have hindented : (headingLine part).toList.head? = some ' ' := by simp [headingLine, indent]
    rw [count_linesOf h htime hindented]
    simp only [Part.all, List.flatMap_cons, List.flatMap_nil, List.count_append,
      count_headingLine]
    cases part <;> simp

/-- Functions that look like a heading and like the end of the listing are told from an event. -/
theorem listing_faithful_lookalikes :
    let listing : Listing :=
      { namespaceName := "alt", functions := ["\x7d", "// ********** Events **********", "\x7d"] }
    let other : Listing := { namespaceName := "alt", functions := ["\x7d"], events := ["\x7d"] }
    let time := "2000-01-01 00:00:00"
    (listing.OnLines ∧ other.OnLines ∧ IsLine time) ∧
      read (listing.render time) = listing ∧
      afterFirstLine (listing.render time) ≠ afterFirstLine (other.render time) ∧
      (linesOf (listing.render time)).count (entryLine "\x7d") = 2 := by
  intro listing other time
  have h : listing.OnLines := ⟨by decide, fun part => by cases part <;> decide⟩
  have hother : other.OnLines := ⟨by decide, fun part => by cases part <;> decide⟩
  have htime : IsLine time := by decide
  obtain ⟨hread, htext, hcount, -⟩ := listing_faithful h hother htime htime
  refine ⟨⟨h, hother, htime⟩, hread, ?_, hcount "\x7d"⟩
  intro heq
  exact absurd (htext.mp heq).2.2.2 (by decide)

end Listing

end ScriptHost
