import ModelMigration.Disk.FileTree
import ModelMigration.Proofs.Text.Pieces

/-!
# Routes

The route of a path is what it leads through from where it starts: its names and its `..` parts.
Empty parts and `.` parts do not count, so a joined path leads on where the one in front ends.
-/

namespace ModelMigration

open Disk (FileTree)

namespace Path

theorem eq_blank {p : Path} (empty : p.text = "") : p = ⟨""⟩ := by
  obtain ⟨text⟩ := p
  exact congrArg Path.mk empty

/-! ## Segments -/

/-- The parts of a path that are not empty. -/
def segments (p : Path) : List String := (FileTree.partsOf p).filter (· ≠ "")

/-- The segments of characters. -/
def segmentsOf (cs : List Char) : List String :=
  ((Text.split '/' cs).map String.ofList).filter (· ≠ "")

theorem segments_eq (p : Path) : p.segments = segmentsOf p.text.toList := rfl

theorem segmentsOf_append_slash (cs ds : List Char) :
    segmentsOf (cs ++ '/' :: ds) = segmentsOf cs ++ segmentsOf ds := by
  simp [segmentsOf, Text.split_append_sep]

theorem segmentsOf_nil : segmentsOf [] = [] := by decide

theorem exists_text_join {p q : Path} (relative : q.isAbsolute = false) (filled : p.text ≠ "") :
    ∃ rest, (p.join q).text = p.text ++ rest := by
  simp only [join, relative, Bool.false_or, decide_eq_true_eq]
  by_cases slash : p.text.toList.getLast? = some '/'
  · exact ⟨q.text, by rw [if_neg filled, if_pos slash]⟩
  · exact ⟨"/" ++ q.text, by rw [if_neg filled, if_neg slash, String.append_assoc]⟩

theorem isAbsolute_of_text {p q : Path} {rest : String} (same : q.text = p.text ++ rest)
    (filled : p.text ≠ "") : q.isAbsolute = p.isAbsolute := by
  have chars : p.text.toList ≠ [] := by simpa using filled
  unfold isAbsolute
  rw [same, String.toList_append]
  cases first : p.text.toList with
  | nil => exact absurd first chars
  | cons c cs => rfl

theorem segments_join (p : Path) {q : Path} (relative : q.isAbsolute = false) :
    (p.join q).segments = p.segments ++ q.segments := by
  simp only [join, relative, Bool.false_or, decide_eq_true_eq, segments_eq]
  by_cases empty : p.text = ""
  · simp [empty, segmentsOf_nil]
  · by_cases slash : p.text.toList.getLast? = some '/'
    · obtain ⟨front, same⟩ := List.getLast?_eq_some_iff.mp slash
      have text : (p.text ++ q.text).toList = front ++ '/' :: q.text.toList := by simp [same]
      rw [if_neg empty, if_pos slash, text, same, segmentsOf_append_slash, segmentsOf_append_slash,
        segmentsOf_nil, List.append_nil]
    · have text : (p.text ++ "/" ++ q.text).toList = p.text.toList ++ '/' :: q.text.toList := by
        simp
      rw [if_neg empty, if_neg slash, text, segmentsOf_append_slash]

theorem segmentsOf_of_not_mem {cs : List Char} (some : cs ≠ []) (free : '/' ∉ cs) :
    segmentsOf cs = [String.ofList cs] := by
  have filled : String.ofList cs ≠ "" := fun same => some (by simpa using congrArg String.toList same)
  simp [segmentsOf, Text.split_of_not_mem free, filled]

/-! ## Routes -/

/-- The part that a component leads through; the root and a `.` lead through nothing. -/
def Component.part? : Component → Option String
  | .root | .current => none
  | .up => some ".."
  | .name text => some text

/-- What a path leads through from where it starts. -/
def route (p : Path) : List String := p.components.filterMap Component.part?

/-- The part that the characters between two slashes lead through. -/
def leadsThrough? (part : List Char) : Option String :=
  (Component.ofPart? part).bind Component.part?

theorem leadsThrough?_eq (part : List Char) :
    leadsThrough? part = if part = [] ∨ part = ['.'] then none else some (String.ofList part) := by
  by_cases none : part = [] ∨ part = ['.']
  · simp [leadsThrough?, Component.ofPart?, none]
  · by_cases up : part = ['.', '.']
    · subst up
      rfl
    · simp [leadsThrough?, Component.ofPart?, none, up, Component.part?]

theorem Lead.part?_eq_none {lead : Lead} {c : Component} (h : c ∈ lead.component?) :
    c.part? = none := by
  cases lead <;> simp [Lead.component?] at h <;> subst h <;> rfl

/-- The lead of a path takes nothing from its route. -/
theorem leadsThrough_leadOf (cs : List Char) :
    (partsOf (leadOf cs).2).filterMap leadsThrough? = (Text.split '/' cs).filterMap leadsThrough? := by
  fun_cases leadOf cs with
  | case1 body => simp [partsOf, Text.split, leadsThrough?_eq]
  | case2 => simp [partsOf, Text.split, leadsThrough?_eq]
  | case3 body => simp [partsOf, Text.split, leadsThrough?_eq]
  | case4 => rfl

theorem route_eq_filterMap (p : Path) :
    p.route = (Text.split '/' p.text.toList).filterMap leadsThrough? := by
  have lead : (leadOf p.text.toList).1.component?.toList.filterMap Component.part? = [] := by
    rw [List.filterMap_eq_nil_iff]
    intro c mem
    exact Lead.part?_eq_none (Option.mem_toList.mp mem)
  rw [← leadsThrough_leadOf, route, components]
  simp only [List.filterMap_append, lead, List.nil_append, List.filterMap_filterMap]
  rfl

/-- The route of a path is its segments without the `.` parts. -/
theorem route_eq (p : Path) : p.route = p.segments.filter (· ≠ ".") := by
  rw [route_eq_filterMap, segments_eq, segmentsOf]
  induction Text.split '/' p.text.toList with
  | nil => rfl
  | cons part parts ih =>
      have blank : String.ofList part = "" ↔ part = [] := by simp [← String.toList_inj]
      have dot : String.ofList part = "." ↔ part = ['.'] := by simp [← String.toList_inj]
      rw [List.filterMap_cons, leadsThrough?_eq, List.map_cons, ih, List.filter_cons]
      by_cases isBlank : part = []
      · simp [isBlank]
      · by_cases isDot : part = ['.']
        · simp [isDot]
        · simp [isBlank, isDot, blank, dot]

theorem ne_blank_of_mem_segments {p : Path} {part : String} (mem : part ∈ p.segments) :
    part ≠ "" := by
  simpa using (List.mem_filter.mp mem).2

theorem mem_segments_of_mem_route {p : Path} {part : String} (mem : part ∈ p.route) :
    part ∈ p.segments := by
  rw [route_eq] at mem
  exact (List.mem_filter.mp mem).1

theorem up_not_mem_segments {p : Path} (noUp : ".." ∉ p.route) : ".." ∉ p.segments := by
  intro mem
  rw [route_eq] at noUp
  exact noUp (List.mem_filter.mpr ⟨mem, by decide⟩)

theorem route_join (p : Path) {q : Path} (relative : q.isAbsolute = false) :
    (p.join q).route = p.route ++ q.route := by
  simp only [route_eq, segments_join p relative, List.filter_append]

end Path

end ModelMigration
