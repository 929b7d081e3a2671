import DocQuery.FieldPath
import DocQuery.Text.CaseWords

/-!
Names of members on the wire. A convention respells each member name; an override replaces it.
Names that start with an underscore belong to the database and stay as they are.
-/

namespace DocQuery

/-- How member names are written on the wire. -/
inductive PropertyCase where
  | unchanged | camel | pascal | snake | kebab
deriving DecidableEq, Inhabited, Repr

namespace PropertyCase

def name : PropertyCase → String
  | .unchanged => "none"
  | .camel => "camel_case"
  | .pascal => "pascal_case"
  | .snake => "snake_case"
  | .kebab => "kebab_case"

def all : List PropertyCase := [.unchanged, .camel, .pascal, .snake, .kebab]

def ofName? (name : String) : Option PropertyCase := all.find? (·.name == name)

def style? : PropertyCase → Option Text.CaseStyle
  | .unchanged => none
  | .camel => some .camel
  | .pascal => some .pascal
  | .snake => some .snake
  | .kebab => some .kebab

def apply (convention : PropertyCase) (member : String) : String :=
  if member.toList.head? = some '_' then member
  else
    match convention.style? with
    | some style => style.apply member
    | none => member

end PropertyCase

/-- How database names are made from type names. -/
inductive DocumentCase where
  | unchanged | snake | kebab
deriving DecidableEq, Inhabited, Repr

namespace DocumentCase

def name : DocumentCase → String
  | .unchanged => "none"
  | .snake => "snake_case"
  | .kebab => "kebab_case"

def all : List DocumentCase := [.unchanged, .snake, .kebab]

def ofName? (name : String) : Option DocumentCase := all.find? (·.name == name)

def databaseName (convention : DocumentCase) (typeName : String) : String :=
  match convention with
  | .unchanged => Text.lowerCase typeName
  | .snake => Text.CaseStyle.snake.apply typeName
  | .kebab => Text.CaseStyle.kebab.apply typeName

end DocumentCase

/-- A convention with the names that it does not decide. -/
structure FieldNaming where
  convention : PropertyCase
  /-- The wire name of a member; of a member named twice the last one counts. -/
  overrides : List (String × String)
deriving DecidableEq, Repr

namespace FieldNaming

def ofCase (convention : PropertyCase) : FieldNaming := ⟨convention, []⟩

instance : Inhabited FieldNaming := ⟨.ofCase .camel⟩

def withOverride (naming : FieldNaming) (member wire : String) : FieldNaming :=
  { naming with overrides := (member, wire) :: naming.overrides }

def override? (naming : FieldNaming) (member : String) : Option String :=
  List.lookup member naming.overrides

def resolveMember (naming : FieldNaming) (member : String) : String :=
  (naming.override? member).getD (naming.convention.apply member)

/-- The dotted wire name of a path. An override of the whole path goes before its segments. -/
def resolve (naming : FieldNaming) (path : FieldPath) : String :=
  (naming.override? path.render).getD
    (".".intercalate (path.segments.map naming.resolveMember))

end FieldNaming
end DocQuery
