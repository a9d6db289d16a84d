/-!
# Name spaces

* `Names`: what names stand for, in one space of names;
* `Names.bind`: give something a name;
* `Names.latest?`, `Names.first?`: what a name stands for, by its latest or by its first binding;
* `Names.nameOf?`: the name that something was given first.

A name may be bound again.  The earlier binding is kept, because something may be known by it.
-/

namespace StructuralAdapters

/-- What names stand for, the latest binding first. -/
abbrev Names (α : Type) := List (String × α)

namespace Names

variable {α : Type}

/-- Give something a name, if there is one to give. -/
def bind (name? : Option String) (a : α) (names : Names α) : Names α :=
  match name? with
  | some name => (name, a) :: names
  | none => names

/-- What a name stands for, by its latest binding. -/
def latest? (names : Names α) (name : String) : Option α :=
  List.lookup name names

/-- What a name stands for, by its first binding. -/
def first? (names : Names α) (name : String) : Option α :=
  List.lookup name names.reverse

/-- The name of the first binding to something that is `wanted`. -/
def nameOf? (names : Names α) (wanted : α → Bool) : Option String :=
  (names.reverse.find? fun (_, a) => wanted a).map (·.1)

end Names

end StructuralAdapters
