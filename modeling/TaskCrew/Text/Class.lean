/-!
# Classes of characters

A class of characters is stored as the ascending list of code points at which membership
switches: a character belongs to the class when an odd number of switches lies at or below it.

* `CharClass` — such a list;
* `CharClass.contains` — membership of a character.

**Design.** One flat list keeps the table of a standard's property short to write, and membership
needs no search structure: the switches below a character are a leading part of the list.
-/

namespace TaskCrew

/-- A set of characters, given by the ascending code points at which membership switches. -/
structure CharClass where
  /-- The code points at which membership switches, the first one switching it on. -/
  switches : List Nat

namespace CharClass

/-- Whether a character belongs to the class: an odd number of switches is at or below it. -/
def contains (k : CharClass) (c : Char) : Bool :=
  (k.switches.takeWhile (· ≤ c.toNat)).length % 2 == 1

end CharClass

end TaskCrew
