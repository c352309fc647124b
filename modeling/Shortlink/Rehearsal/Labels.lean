import Shortlink.Rehearsal.Database

/-!
# Labels

What a rehearsal draws at random or takes from its clock is different in each run. To compare
runs, ids and codes are replaced by labels in the order in which they come up, and times of
the run by one word.
-/

namespace Shortlink.Rehearsal

open Time (Moment Stamp.parse)

/-- The labels given so far, each after the text that it stands for. -/
structure Labels where
  /-- The script of the rehearsal. What stands in it is not random. -/
  script : String
  ids : List (String × String) := []
  codes : List (String × String) := []

namespace Labels

/-- The text contains a word. -/
def contains (text word : String) : Bool := 1 < (text.splitOn word).length

/-- Gives an id a label, unless it has one or is not random. -/
def see (labels : Labels) (id : Uuid) : Labels :=
  let text := id.toString
  if labels.ids.any (·.1 == text) || contains labels.script text then labels
  else
    { labels with
      ids := labels.ids ++ [(text, "<id:" ++ toString (labels.ids.length + 1) ++ ">")] }

/-- Gives ids labels. -/
def seeAll (labels : Labels) (ids : List Uuid) : Labels := ids.foldl see labels

/-- Gives the ids of a URL and of its pending events labels. -/
def seeLink (labels : Labels) (link : Link) : Labels :=
  (labels.see link.id).seeAll (link.pending.map (·.id))

/-- The length from which on a code counts as random. -/
def randomLength : Nat := 6

/-- Gives a code a label, unless it has one or is too short to be random. -/
def seeCode (labels : Labels) (code : String) : Labels :=
  if code.length < randomLength || labels.codes.any (·.1 == code) then labels
  else
    { labels with
      codes := labels.codes ++ [(code, "<code:" ++ toString (labels.codes.length + 1) ++ ">")] }

/-- Gives the ids of all stored URLs, and then those of all messages, labels. -/
def seeStore (labels : Labels) (store : Store) : Labels :=
  (labels.seeAll (store.links.map (·.id))).seeAll (store.outbox.map (·.id))

/-- Gives the ids that a statement carries labels, and the code that it asks for if codes
were drawn at random. -/
def seeStatement (codesAreDrawn : Bool) (labels : Labels) (sent : Sent) : Labels :=
  let asksForCode := Database.opens "SELECT EXISTS(" sent.statement.sql
  sent.statement.params.foldl (fun labels value =>
    match value with
    | .uuid id => labels.see id
    | .text code => if codesAreDrawn && asksForCode then labels.seeCode code else labels
    | _ => labels) labels

/-! ## Times -/

/-- The text has the shape of a pattern, in which `d` stands for any digit. -/
def hasShape (pattern text : List Char) : Bool :=
  text.length == pattern.length &&
    (text.zip pattern).all fun (c, mark) => if mark = 'd' then c.isDigit else c == mark

/-- The shape of a time stamp up to its whole seconds. -/
def stampShape : List Char := "dddd-dd-ddTdd:dd:dd".toList

/-- The time stamp at the front of a text, and what follows it. -/
def splitStamp? (text : List Char) : Option (List Char × List Char) :=
  let front := text.take stampShape.length
  if hasShape stampShape front then
    let (fraction, rest) :=
      match text.drop stampShape.length with
      | '.' :: more =>
        let digits := more.takeWhile Char.isDigit
        if digits.isEmpty then ([], '.' :: more)
        else ('.' :: digits, more.drop digits.length)
      | rest => ([], rest)
    match rest with
    | 'Z' :: more => some (front ++ fraction ++ ['Z'], more)
    | '+' :: '0' :: '0' :: ':' :: '0' :: '0' :: more => some (front ++ fraction ++ ['Z'], more)
    | _ => none
  else none

/-- What stands for the times of a run. -/
def nowMark : List Char := "<now>".toList

/-- The time stamp at the front of a text is one of the run from `start` to `now`; the result
is what follows it. -/
def currentStamp? (start now : Moment) (text : List Char) : Option (List Char) :=
  (splitStamp? text).bind fun (stamp, rest) =>
    match Stamp.parse stamp with
    | .ok moment => if !moment.isBefore start && !now.isBefore moment then some rest else none
    | .error _ => none

/-- Replaces the times of the run in a text of at most `steps` characters. -/
def hideTimes (start now : Moment) : Nat → List Char → List Char
  | 0, text => text
  | _, [] => []
  | steps + 1, c :: rest =>
    match currentStamp? start now (c :: rest) with
    | some rest => nowMark ++ hideTimes start now steps rest
    | none => c :: hideTimes start now steps rest

/-! ## Replacing -/

/-- A text with labels in place of what they stand for, and without the times of the run. -/
def hide (labels : Labels) (start now : Moment) (text : String) : String :=
  let text :=
    (labels.ids ++ labels.codes).foldl (fun text (value, label) => text.replace value label) text
  .ofList (hideTimes start now text.length text.toList)

/-- A text with what labels stand for in their place. -/
def reveal (labels : Labels) (text : String) : String :=
  (labels.ids ++ labels.codes).foldl (fun text (value, label) => text.replace label value) text

end Labels

end Shortlink.Rehearsal
