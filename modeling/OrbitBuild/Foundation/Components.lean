import OrbitBuild.Foundation.Text

/-! # The components of a path

A path is text; what it names is given by its components. Repeated and trailing
separators do not count, and neither does `.`, unless the path starts with it.
-/

namespace PathText

/-- `std::path::Component`, on Unix. -/
inductive Component
  | rootDir
  | curDir
  | parentDir
  | normal (name : String)
  deriving DecidableEq, Repr

/-- What a piece between two separators stands for. -/
def component (piece : String) : Option Component :=
  if piece = "" ∨ piece = "." then none
  else if piece = ".." then some .parentDir
  else some (.normal piece)

/-- What the front of a path stands for: the root, or a leading `.`. -/
def lead (path : String) : List Component :=
  if Text.startsWith path "/" then [.rootDir]
  else if (Text.split path '/').head? = some "." then [.curDir]
  else []

/-- `Path::components`. -/
def components (path : String) : List Component :=
  lead path ++ (Text.split path '/').filterMap component

/-- `Path::parent`, by its components. -/
def parent (path : String) : Option (List Component) :=
  match (components path).getLast? with
  | none | some .rootDir => none
  | some _ => some (components path).dropLast

/-- `Path::file_name`. -/
def fileName (path : String) : Option String :=
  match (components path).getLast? with
  | some (.normal name) => some name
  | _ => none

/-- A piece that names a file: it is not empty and is neither `.` nor `..`. -/
def Plain (name : String) : Prop :=
  '/' ∉ name.toList ∧ component name = some (.normal name)

/-- A slash separates the pieces before it from those after it. -/
theorem split_append_slash (front back : String) :
    Text.split (front ++ "/" ++ back) '/' = Text.split front '/' ++ Text.split back '/' := by
  have chars : (front ++ "/" ++ back).toList = front.toList ++ '/' :: back.toList := by
    rw [String.toList_append, String.toList_append, List.append_assoc]
    rfl
  rw [Text.split, chars, List.splitOn_append_cons_self, List.map_append, Text.split, Text.split]

/-- What follows a slash does not make a path absolute. -/
theorem startsWith_append_slash (front back : String) :
    Text.startsWith (front ++ "/" ++ back) "/" = (front = "" || Text.startsWith front "/") := by
  obtain ⟨chars, rfl⟩ : ∃ chars, front = String.ofList chars := ⟨_, String.ofList_toList.symm⟩
  have text : (String.ofList chars).toList = chars := String.toList_ofList
  rw [Text.startsWith, Text.startsWith, String.toList_append, String.toList_append, text]
  cases chars with
  | nil => rfl
  | cons first rest =>
      have visible : String.ofList (first :: rest) ≠ "" := by
        intro empty
        cases String.ofList_injective empty
      rw [decide_eq_false visible]
      rfl

/-- What follows a separator does not change the front of the path. -/
theorem lead_append_slash (front back : String) :
    lead (front ++ "/" ++ back) =
      if front = "" || Text.startsWith front "/" then [.rootDir]
      else if (Text.split front '/').head? = some "." then [.curDir]
      else [] := by
  have nonempty : Text.split front '/' ≠ [] := by
    intro empty
    exact List.splitOn_ne_nil '/' front.toList (List.map_eq_nil_iff.mp empty)
  rw [lead, startsWith_append_slash, split_append_slash, List.head?_append_of_ne_nil _ nonempty]

theorem filterMap_split_empty : (Text.split "" '/').filterMap component = [] := by
  rw [Text.split_of_not_mem List.not_mem_nil]
  rfl

/-- What is put behind a slash adds its own components. -/
theorem components_append_slash (front back : String) :
    components (front ++ "/" ++ back) =
      components (front ++ "/") ++ (Text.split back '/').filterMap component := by
  have slash : components (front ++ "/") = components (front ++ "/" ++ "") :=
    congrArg components String.append_empty.symm
  rw [slash, components, components, lead_append_slash, lead_append_slash, split_append_slash,
    split_append_slash, List.filterMap_append, List.filterMap_append, filterMap_split_empty,
    List.append_nil, List.append_assoc]

/-- A trailing separator does not count. -/
theorem components_slash {front : String} (visible : front ≠ "") :
    components (front ++ "/") = components front := by
  have slash : components (front ++ "/") = components (front ++ "/" ++ "") :=
    congrArg components String.append_empty.symm
  rw [slash, components, components, lead_append_slash, lead, split_append_slash,
    List.filterMap_append, filterMap_split_empty, List.append_nil, decide_eq_false visible,
    Bool.false_or]

/-- A plain name is one component. -/
theorem split_plain {name : String} (plain : Plain name) :
    (Text.split name '/').filterMap component = [.normal name] := by
  rw [Text.split_of_not_mem plain.1, List.filterMap_cons_some plain.2, List.filterMap_nil]

/-- A plain name has one component. -/
theorem components_plain {name : String} (plain : Plain name) :
    components name = [.normal name] := by
  have lead : lead name = [] := by
    have rooted : Text.startsWith name "/" = false := by
      rw [Text.startsWith, Bool.eq_false_iff]
      intro rooted
      obtain ⟨rest, split⟩ := List.isPrefixOf_iff_prefix.mp rooted
      exact plain.1 (split ▸ List.mem_cons_self)
    have dot : name ≠ "." := by
      rintro rfl
      cases plain.2
    rw [PathText.lead, rooted, Text.split_of_not_mem plain.1, List.head?_cons]
    simp only [Bool.false_eq_true, ↓reduceIte, Option.some.injEq, dot]
  rw [components, lead, split_plain plain, List.nil_append]

/-- The parent has all components but the last. -/
theorem parent_of_components {path : String} {front : List Component} {name : String}
    (split : components path = front ++ [.normal name]) : parent path = some front := by
  rw [parent, split, List.getLast?_concat, List.dropLast_concat]

/-- The file name is the last component. -/
theorem fileName_of_components {path : String} {front : List Component} {name : String}
    (split : components path = front ++ [.normal name]) : fileName path = some name := by
  rw [fileName, split, List.getLast?_concat]

end PathText
