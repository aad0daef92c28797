import SeriesCatalog.Document.Series

/-!
# Fields whose different values are asked for

A specifier names a field, or asks for the names of all fields by a reserved word.  The
specifiers of a request are in the order in which they came first.
-/

namespace SeriesCatalog

/-- What the different values of are asked for. -/
inductive Specifier
  | schemaKeys
  | field (name : String)
deriving DecidableEq, Repr

namespace Specifier

def parse (text : String) : Specifier :=
  if text = Series.fieldsKey then schemaKeys else field text

/-- The path of the values in a document. -/
def storePath : Specifier → String
  | schemaKeys => Series.fieldsKey
  | field name => Series.fieldPath name

/-- The key of the values in an answer. -/
def responseKey : Specifier → String
  | schemaKeys => Series.fieldsKey
  | field name => name

/-- The key in an answer is the text that was asked for. -/
@[simp] theorem responseKey_parse (text : String) : (parse text).responseKey = text := by
  by_cases h : text = Series.fieldsKey <;> simp [parse, responseKey, h]

/-- The specifiers of texts in the order in which they came first, after those that came
before. -/
def collect (before : List Specifier) : List String → List Specifier
  | [] => before
  | t :: l =>
      if before.contains (parse t) then collect before l
      else collect (before ++ [parse t]) l

theorem nodup_collect :
    ∀ (l : List String) (before : List Specifier),
      before.Nodup → (collect before l).Nodup
  | [], _, h => h
  | t :: l, before, h => by
      simp only [collect]
      split
      · exact nodup_collect l before h
      · rename_i new
        refine nodup_collect l _ (List.nodup_append.mpr ⟨h, by simp, ?_⟩)
        intro a ha b hb
        simp only [List.mem_singleton] at hb
        rintro rfl
        subst hb
        exact new (by simpa using ha)

end Specifier

structure Specifiers where
  list : List Specifier
  nodup : list.Nodup

namespace Specifiers

/-- The specifiers of texts, each at its first place. -/
def ofTexts (l : List String) : Specifiers :=
  ⟨Specifier.collect [] l, Specifier.nodup_collect l [] List.nodup_nil⟩

def none : Specifiers :=
  ofTexts []

def isEmpty (s : Specifiers) : Bool :=
  s.list.isEmpty

end Specifiers

end SeriesCatalog
