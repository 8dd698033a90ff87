import Storefront.Text.CaseTables
/-!
# Lower case

Characters are mapped one by one by the tables, except that the dotted capital I becomes two
characters and that a capital sigma depends on its place: at the end of a word it is written in
its final form.
-/

namespace Storefront.Text

/-- The lower-case partner of a single character. -/
def lowerChar (c : Char) : Char :=
  match find? (fun entry => (entry.1, entry.2.1)) loweringEntries c.toNat with
  | none => c
  | some entry =>
    let run := CaseRun.ofEntry entry
    if (c.toNat - run.first) % run.step = 0 then Char.ofNat (c.toNat + run.distance).toNat else c

/-- Whether the nearest character that is not passed over has a case. -/
def meetsCased (neighbours : List Char) : Bool :=
  match neighbours.dropWhile fun c => inRanges passedOverRanges c.toNat with
  | [] => false
  | c :: _ => inRanges casedRanges c.toNat

/-- Lower-case the rest of a text whose earlier characters, nearest first, are given. -/
def lowerAfter (before : List Char) : List Char → List Char
  | [] => []
  | c :: rest =>
    let lowered :=
      if c = 'Σ' then
        if meetsCased before && !meetsCased rest then ['ς'] else ['σ']
      else if c = 'İ' then ['i', '\u0307']
      else [lowerChar c]
    lowered ++ lowerAfter (c :: before) rest

/-- A text in lower case. -/
def lower (text : String) : String := String.ofList (lowerAfter [] text.toList)

end Storefront.Text
