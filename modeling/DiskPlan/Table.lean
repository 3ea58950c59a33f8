/-!
# Partition Tables

The two kinds of partition tables and the roles that a partition has in one.

A name is the word that tokens, layout files and plans use for a value, and
reading a name is exact: no other spelling is taken.

## Main definitions

* `TableKind`: A kind of partition table.
* `Role`: The role of a partition in its table.

## Theorems

* `TableKind.ofName?_name`, `Role.ofName?_name`: A value is found under its own name.
-/

namespace DiskPlan

/-- The value of a list with a given name. -/
def ofNameIn? {α : Type} (name : α → String) (all : List α) (s : String) : Option α :=
  all.find? fun a => name a == s

/-- A kind of partition table. -/
inductive TableKind where
  | gpt
  | msdos
  deriving DecidableEq, Repr

namespace TableKind

/-- Every kind of partition table. -/
def all : List TableKind := [gpt, msdos]

/-- The name of a kind of partition table. -/
def name : TableKind → String
  | gpt => "gpt"
  | msdos => "msdos"

/-- The kind of partition table with a name. -/
def ofName? : String → Option TableKind := ofNameIn? name all

theorem ofName?_name (kind : TableKind) : ofName? kind.name = some kind := by
  cases kind <;> decide

end TableKind

/-- The role of a partition in its table. -/
inductive Role where
  | primary
  | logical
  deriving DecidableEq, Repr

namespace Role

/-- Every role. -/
def all : List Role := [primary, logical]

/-- The name of a role. -/
def name : Role → String
  | primary => "primary"
  | logical => "logical"

/-- The role with a name. -/
def ofName? : String → Option Role := ofNameIn? name all

theorem ofName?_name (role : Role) : ofName? role.name = some role := by
  cases role <;> decide

end Role

end DiskPlan
