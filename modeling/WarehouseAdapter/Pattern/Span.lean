import WarehouseAdapter.Pattern.Basic

/-!
# Matches of a pattern

For each place of a text, from its start to its end, the lengths of the matches that begin there.
The lengths of one place are kept as the number whose binary digits are set at them.
-/

namespace WarehouseAdapter.Pattern

/-- What stands right before a place and all that stands behind it. -/
abbrev Outlook := Option Char × List Char

def outlooks (before : Option Char) : List Char → List Outlook
  | [] => [(before, [])]
  | c :: cs => (before, c :: cs) :: outlooks (some c) cs

abbrev Spans := List Nat

namespace Spans

/-- Lengths of two matches in a row, given the first ones and the second ones from here on. -/
def reach (lengths : Nat) : Spans → Nat
  | [] => 0
  | s :: rest =>
    if lengths = 0 then 0
    else (if lengths % 2 = 1 then s else 0) ||| 2 * reach (lengths / 2) rest

def andThen : Spans → Spans → Spans
  | r :: rs, s :: ss => reach r (s :: ss) :: andThen rs ss
  | _, _ => []

def orElse (r s : Spans) : Spans := List.zipWith (· ||| ·) r s

/-- Does a step a number of times; what a step does not change stays. -/
def iterate (step : Spans → Spans) : Nat → Spans → Spans
  | 0, s => s
  | n + 1, s =>
    let t := step s
    if t = s then s else iterate step n t

end Spans

def wordSpan (text w : List Char) : Nat := if w.isPrefixOf text then Nat.pow 2 w.length else 0

def spans (places : List Outlook) : Pattern → Spans
  | empty => places.map fun _ => 1
  | words ws => places.map fun (_, text) => ws.foldl (fun n w => n ||| wordSpan text w) 0
  | one set => places.map fun (_, text) => if text.head?.any set.contains then 2 else 0
  | anchor a => places.map fun (before, text) => if a.holds before text.head? then 1 else 0
  | seq p q => Spans.andThen (p.spans places) (q.spans places)
  | alt p q => Spans.orElse (p.spans places) (q.spans places)
  | repeated least most p =>
    let r := p.spans places
    let none := places.map fun _ => 1
    let rounds := (most.map (· - least)).getD places.length
    Spans.andThen (Spans.iterate (Spans.andThen r) least none)
      (Spans.iterate (Spans.andThen (Spans.orElse none r)) rounds none)
  | group p => p.spans places

/-- A match may begin anywhere in the text, also at its end. -/
def isMatch (p : Pattern) (text : List Char) : Bool :=
  (p.spans (outlooks none text)).any (· ≠ 0)

end WarehouseAdapter.Pattern
