import DiskPlan.Text

/-!
# Paths

Mount points and file names in their lexical normal form.

A path is read without looking at any file system. Empty components and dots
disappear, so `a//b/./c/` and `a/b/c` are one path, while `..` stays, since what
it undoes may be a link. Exactly two leading slashes are a root of their own;
three or more are one slash. A path with nothing in it is written as a dot.

Resolving a path is lexical too: a leading `~` stands for the home directory,
with a name after it for the home of that user, a relative path continues the
working directory, and `..` takes back the component before it. That is what a
file system without links would answer.

## Main definitions

* `Path`: A root and the components under it.
* `Path.parse`: The path that a text names.
* `Path.text`: The normal form of a path.
* `Path.resolve?`: A path made absolute, without `~` and `..`.
* `Path.holdsNull`: Whether no file can have a path.

## Theorems

* `mem_resolveParts`: Resolving invents no component.
-/

namespace DiskPlan

/-- What a path starts from. -/
inductive Root where
  | relative
  | slash
  | twoSlashes
  deriving DecidableEq, Repr

/-- Whether a text is a component of a path: not empty, not a dot, and without a
    slash. -/
def isComponent (s : String) : Bool :=
  s != "" && s != "." && !s.toList.contains '/'

/-- A path in normal form. -/
structure Path where
  root : Root
  parts : List String
  proper : ∀ p ∈ parts, isComponent p = true
  deriving DecidableEq, Repr

namespace Path

/-- The root that a text begins with. -/
def rootOf (s : String) : Root :=
  match s.toList.takeWhile (· == '/') with
  | [] => .relative
  | [_, _] => .twoSlashes
  | _ => .slash

/-- The path that a text names. -/
def parse (s : String) : Path where
  root := rootOf s
  parts := (Text.fields '/' s).filter isComponent
  proper := fun _ h => (List.mem_filter.mp h).2

/-- The text of a root. -/
def rootText : Root → String
  | .relative => ""
  | .slash => "/"
  | .twoSlashes => "//"

/-- The normal form of a path. -/
def text (p : Path) : String :=
  match p.root, p.parts with
  | .relative, [] => "."
  | root, parts => rootText root ++ "/".intercalate parts

/-- The components left of a list when every `..` takes back the one before it,
    given those already passed, last one first. -/
def resolveParts : List String → List String → List String
  | done, [] => done.reverse
  | done, p :: rest =>
    if p = ".." then resolveParts done.tail rest else resolveParts (p :: done) rest

theorem mem_resolveParts {x : String} (parts : List String) :
    ∀ done : List String, x ∈ resolveParts done parts → x ∈ done ∨ x ∈ parts := by
  induction parts with
  | nil =>
    intro done h
    exact .inl (List.mem_reverse.mp h)
  | cons p rest ih =>
    intro done h
    unfold resolveParts at h
    split at h
    · rcases ih _ h with h | h
      · exact .inl (List.mem_of_mem_tail h)
      · exact .inr (List.mem_cons_of_mem _ h)
    · rcases ih _ h with h | h
      · rcases List.mem_cons.mp h with rfl | h
        · exact .inr List.mem_cons_self
        · exact .inl h
      · exact .inr (List.mem_cons_of_mem _ h)

/-- One path continued by the components of another. -/
def join (p q : Path) : Path where
  root := p.root
  parts := p.parts ++ q.parts
  proper := fun x h => (List.mem_append.mp h).elim (p.proper x) (q.proper x)

/-- A path with a home in the place of a leading `~`, given the homes of users by
    name. Without a name it is the home of whoever asks. There is no path if the
    user has no home. -/
def expand? (p : Path) (homeOf? : String → Option Path) : Option Path :=
  match h : p.parts with
  | first :: rest =>
    if p.root = .relative ∧ first.toList.head? = some '~' then
      (homeOf? (String.ofList (first.toList.drop 1))).map fun home =>
        home.join ⟨.relative, rest, fun x hx => p.proper x (h ▸ List.mem_cons_of_mem _ hx)⟩
    else
      some p
  | [] => some p

/-- A path made absolute in a working directory, with `..` taken back. -/
def absolute (p workingDirectory : Path) : Path :=
  let full := if p.root = .relative then workingDirectory.join p else p
  { root := .slash
    parts := resolveParts [] full.parts
    proper := fun x h =>
      full.proper x ((mem_resolveParts full.parts [] h).resolve_left List.not_mem_nil) }

/-- A path made absolute, without `~` and `..`; none if it begins in a home that
    is not known. -/
def resolve? (p : Path) (homeOf? : String → Option Path) (workingDirectory : Path) :
    Option Path :=
  (p.expand? homeOf?).map fun q => q.absolute workingDirectory

/-- Whether a text holds a null character. No file has such a path, and no user
    such a name. -/
def holdsNull (s : String) : Bool :=
  s.toList.contains '\x00'

end Path

end DiskPlan
