import DiskPlan.Table
import DiskPlan.Text

/-!
# Partition Flags

The flags of a partition and the lists of names that tokens give them in.

A list of flags is kept in the order of declaration and without repetition, so a
set of flags has one list and equal sets are equal lists. Names that stand for
no flag are dropped, and reported, since a misspelt flag is no reason to stop.

## Main definitions

* `Flag`: A partition flag.
* `Flag.inOrder`: The flags of a list, in the order of declaration.
* `Flag.parse`: The flags that a comma-separated list names.
* `Flag.ignored`: The names in such a list that stand for no flag.

## Theorems

* `ofName?_name`: A flag is found under its own name.
* `mem_inOrder`: Putting flags in order neither adds nor loses one.
-/

namespace DiskPlan

/-- A partition flag. -/
inductive Flag where
  | esp
  | boot
  | root
  | swap
  | hidden
  | raid
  | lvm
  | lba
  | hpservice
  | palo
  | prep
  | msftReserved
  | appleTvRecovery
  | diag
  | legacyBoot
  | msftData
  | irst
  deriving DecidableEq, Repr

namespace Flag

/-- Every flag, in the order of declaration. -/
def all : List Flag :=
  [esp, boot, root, swap, hidden, raid, lvm, lba, hpservice, palo, prep, msftReserved,
    appleTvRecovery, diag, legacyBoot, msftData, irst]

/-- The name of a flag. -/
def name : Flag → String
  | esp => "esp"
  | boot => "boot"
  | root => "root"
  | swap => "swap"
  | hidden => "hidden"
  | raid => "raid"
  | lvm => "lvm"
  | lba => "lba"
  | hpservice => "hpservice"
  | palo => "palo"
  | prep => "prep"
  | msftReserved => "msft_reserved"
  | appleTvRecovery => "apple_tv_recovery"
  | diag => "diag"
  | legacyBoot => "legacy_boot"
  | msftData => "msft_data"
  | irst => "irst"

/-- The flag with a name. -/
def ofName? : String → Option Flag := ofNameIn? name all

/-- The flags of a list in the order of declaration, each once. -/
def inOrder (flags : List Flag) : List Flag :=
  all.filter fun f => flags.contains f

/-- The flags that a comma-separated list names. -/
def parse (token : String) : List Flag :=
  inOrder ((Text.fields ',' token).filterMap ofName?)

/-- The names in a comma-separated list that stand for no flag, in their order.
    An empty name is none. -/
def ignored (token : String) : List String :=
  (Text.fields ',' token).filter fun s => s != "" && (ofName? s).isNone

theorem ofName?_name (f : Flag) : ofName? f.name = some f := by
  cases f <;> decide

theorem mem_all (f : Flag) : f ∈ all := by
  cases f <;> decide

theorem mem_inOrder {f : Flag} {flags : List Flag} : f ∈ inOrder flags ↔ f ∈ flags := by
  simp [inOrder, mem_all]

end Flag

end DiskPlan
