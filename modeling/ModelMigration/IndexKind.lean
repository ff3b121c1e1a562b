/-!
# Index kinds

The index of a column is the name of the method that adds it, or `none` for no index. The empty
text stands for no index too.
-/

namespace ModelMigration

/-- The index of a column, by the text that stands for it. -/
structure IndexKind where
  text : String
  text_ne_empty : text ≠ ""
deriving DecidableEq, Repr

namespace IndexKind

/-- No index. -/
def none : IndexKind := ⟨"none", by decide⟩

/-- The primary key. -/
def primary : IndexKind := ⟨"primary", by decide⟩

/-- The names of the builder's own index methods. -/
def methods : List String := ["primary", "unique", "index", "spatialIndex", "fulltext"]

/-- The index kind that a text stands for. -/
def ofText (s : String) : IndexKind := if h : s = "" then none else ⟨s, h⟩

instance : Inhabited IndexKind := ⟨none⟩

/-- Whether a call is added to the column. -/
def isIndexed (k : IndexKind) : Bool := k ≠ none

/-- Whether the column is the primary key. -/
def isPrimary (k : IndexKind) : Bool := k = primary

theorem ofText_text (k : IndexKind) : ofText k.text = k := by
  rw [ofText, dif_neg k.text_ne_empty]

theorem text_ofText {s : String} (h : s ≠ "") : (ofText s).text = s := by
  rw [ofText, dif_neg h]

end IndexKind

end ModelMigration
