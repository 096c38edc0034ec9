/-!
Room for calls inside each other.

Whatever is nested is followed by calls inside each other, one or two for each level, and only so many calls can be open
at a time. How many are left is not up to the one who reads: it depends on how many are open already, and workers start
with fewer of them than the rest of a program. So the room is a parameter of all that follows nested data.
-/
namespace FeatureAudit

/-- A number of levels that nothing exceeds that the program writes to be read again. -/
def writtenDepth : Nat := 8

/-- How far calls inside each other can go: the levels of JSON values that can be read, and the calls that can be open
inside each other for the entries of a stylesheet, where sources are looked into one after another and in a worker. There
is always room to read what the program itself writes. -/
structure Room where
  values : Nat
  entries : Nat
  workers : Nat
  enough : writtenDepth ≤ values
  deriving DecidableEq, Repr

/-- The room that a worker has. -/
def Room.ofWorker (room : Room) : Room := { room with entries := room.workers }

/-- The room of a program that has few calls open when it starts to read. -/
def Room.usual : Room := { values := 980, entries := 980, workers := 985, enough := by decide }

instance : Inhabited Room := ⟨.usual⟩

end FeatureAudit
