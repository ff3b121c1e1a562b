import ModelMigration.Text.Split
import Std.Data.ExtTreeMap

/-!
# Paths

A path is a text. Two paths are alike when they have the same components: repeated slashes, a
slash at the end and inner `.` parts do not count, while a `.` in front does.
-/

namespace ModelMigration

/-- A path as it is spelled. -/
structure Path where
  text : String
deriving DecidableEq, Repr

namespace Path

/-- One part of a path. -/
inductive Component where
  | root
  | current
  | up
  | name (text : String)
deriving DecidableEq, Repr

namespace Component

/-- The place of the sort of a component among the others. -/
def rank : Component → Nat
  | root => 0
  | current => 1
  | up => 2
  | name _ => 3

/-- The name in a component, empty where there is none. -/
def label : Component → String
  | name text => text
  | _ => ""

theorem eq_of_rank_of_label {x y : Component} (rank : x.rank = y.rank) (label : x.label = y.label) :
    x = y := by
  cases x <;> cases y <;> simp_all [Component.rank, Component.label]

/-- Components are ordered by sort, and names by their characters. -/
instance : Ord Component := ⟨compareLex (compareOn rank) (compareOn label)⟩

instance : Std.TransOrd Component :=
  inferInstanceAs (Std.TransCmp (compareLex (compareOn rank) (compareOn label)))

instance : Std.LawfulEqOrd Component where
  eq_of_compare {x y} same := by
    have both := Ordering.then_eq_eq.mp same
    exact eq_of_rank_of_label (Std.LawfulEqOrd.eq_of_compare both.1)
      (Std.LawfulEqOrd.eq_of_compare both.2)

/-- The component that a part between two slashes stands for, if it stands for one. -/
def ofPart? (part : List Char) : Option Component :=
  if part = [] || part = ['.'] then none
  else if part = ['.', '.'] then some up
  else some (name (String.ofList part))

end Component

/-- Whether a path starts from the root directory. -/
def isAbsolute (p : Path) : Bool := p.text.toList.head? = some '/'

/-- What stands in front of the parts: a slash, a `.` that is a part of its own, or nothing. -/
inductive Lead where
  | slash
  | dot
  | bare
deriving DecidableEq, Repr

/-- The characters of a lead. -/
def Lead.text : Lead → List Char
  | slash => ['/']
  | dot => ['.']
  | bare => []

/-- The component that a lead is, if it is one. -/
def Lead.component? : Lead → Option Component
  | slash => some .root
  | dot => some .current
  | bare => none

/-- The lead of a path and the characters behind it. -/
def leadOf : List Char → Lead × List Char
  | '/' :: body => (.slash, body)
  | ['.'] => (.dot, [])
  | '.' :: '/' :: body => (.dot, '/' :: body)
  | body => (.bare, body)

/-- The parts of the characters behind the lead. -/
def partsOf (body : List Char) : List (List Char) := Text.split '/' body

/-- The components of a path. -/
def components (p : Path) : List Component :=
  let (lead, body) := leadOf p.text.toList
  lead.component?.toList ++ (partsOf body).filterMap Component.ofPart?

/-- The path of `q` as seen from `p`. -/
def join (p q : Path) : Path :=
  if q.isAbsolute || p.text = "" then q
  else if p.text.toList.getLast? = some '/' then ⟨p.text ++ q.text⟩
  else ⟨p.text ++ "/" ++ q.text⟩

/-- The name at the end of a path, if a name stands there. -/
def fileName? (p : Path) : Option String :=
  match p.components.getLast? with
  | some (.name text) => some text
  | _ => none

/-- The name at the end without its last dot and what follows it, unless nothing stands in front. -/
def fileStem? (p : Path) : Option String :=
  p.fileName?.map fun name =>
    match Text.split '.' name.toList with
    | [] | [_] => name
    | parts =>
        let stem := Text.join ['.'] parts.dropLast
        if stem = [] then name else String.ofList stem

/-- The parts without those at the end that stand for no component. -/
def trimParts (parts : List (List Char)) : List (List Char) :=
  (parts.reverse.dropWhile fun part => (Component.ofPart? part).isNone).reverse

/-- The path without its last component; none for the root and for the empty path. -/
def parent? (p : Path) : Option Path :=
  let (lead, body) := leadOf p.text.toList
  match trimParts (partsOf body) with
  | [] => if lead = .dot then some ⟨""⟩ else none
  | parts => some ⟨String.ofList (lead.text ++ Text.join ['/'] (trimParts parts.dropLast))⟩

/-- The path, its parent, the parent's parent and so on, at most `fuel` of them. -/
def ancestorsFrom : (fuel : Nat) → Path → List Path
  | 0, _ => []
  | fuel + 1, p =>
      p :: match p.parent? with
        | some parent => ancestorsFrom fuel parent
        | none => []

/-- The path, its parent, the parent's parent and so on. -/
def ancestors (p : Path) : List Path := ancestorsFrom (p.text.length + 2) p

/-- The path of a component alone. -/
def Component.path : Component → Path
  | root => ⟨"/"⟩
  | current => ⟨"."⟩
  | up => ⟨".."⟩
  | name text => ⟨text⟩

/-- The path in plain spelling from the root directory, given the directory it is meant from. -/
def absolute (p here : Path) : Path :=
  let parts := p.components.filter (· ≠ .current)
  let chars := p.text.toList
  let twoSlashes := chars.take 2 = ['/', '/'] && (chars.drop 2).head? ≠ some '/'
  let start : Path × List Component :=
    if !p.isAbsolute then (here, parts)
    else if twoSlashes then (⟨"//"⟩, parts.drop 1)
    else (⟨""⟩, parts)
  let plain := start.2.foldl (fun path part => path.join part.path) start.1
  if chars.getLast? = some '/' then plain.join ⟨""⟩ else plain

end Path

end ModelMigration
