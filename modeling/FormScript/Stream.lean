/-
One-shot sequences. A stream gives each of its items once, in order, to
whoever reads it first; reading it again gives what is left. A stream is
therefore known by its identity, and how far each one has been read is kept
beside the trees that hold them, in `Streams`.

Identities are handed out by stamps: whoever builds new values takes a stamp
that nobody else has and numbers the values built under it.
-/

namespace FormScript

/-- The identity of a value that is equal to itself only. -/
structure Identity where
  stamp : Nat
  index : Nat
deriving DecidableEq, Inhabited

/-- How far each stream has been read, and the next unused stamp. -/
structure Streams where
  reads : List (Identity × Nat) := []
  nextStamp : Nat := 0
deriving Inhabited

namespace Streams

/-- How many items of a stream have been taken. -/
def position (s : Streams) (id : Identity) : Nat := (s.reads.lookup id).getD 0

/-- The same streams, of which one now has `count` items taken. -/
def advance (s : Streams) (id : Identity) (count : Nat) : Streams :=
  { s with reads := (id, count) :: s.reads }

/-- The same streams, some stamps used up. -/
def useStamps (s : Streams) (count : Nat) : Streams := { s with nextStamp := s.nextStamp + count }

/-- The same streams, one stamp used up. -/
def useStamp (s : Streams) : Streams := s.useStamps 1

@[simp] theorem position_advance_self (s : Streams) (id : Identity) (count : Nat) :
    (s.advance id count).position id = count := by
  simp [position, advance]

theorem position_advance_of_ne (s : Streams) {id other : Identity} (h : other ≠ id)
    (count : Nat) : (s.advance id count).position other = s.position other := by
  simp [position, advance, List.lookup_cons, beq_eq_false_iff_ne.mpr h]

end Streams

end FormScript
