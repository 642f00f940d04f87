import Campus.Data.Keyed
/-!
# Writer locks

Writers of one dataset take turns, writers of different datasets do not wait for each other. A table
has a lock for every id that is being written. A writer takes a handle of the lock for its id,
making one if the table has none, and waits with it until nobody holds the lock; it may give up
while it waits. A writer that is done first releases the lock together with its handle and then
clears the table: the entry for its id goes if nobody has a handle of that lock. The steps of
several writers may come in any order.
-/

namespace Campus

/-- Where a writer stands with its lock. -/
inductive WriterPhase
  | waiting
  | holding
  /-- The lock is released and the table not yet cleared. -/
  | released
deriving DecidableEq

/-- A writer. -/
structure Writer where
  /-- Which writer it is. -/
  number : Nat
  /-- The id that it writes. -/
  id : String
  /-- The lock that it has or had a handle of. -/
  lock : Nat
  phase : WriterPhase
deriving DecidableEq

/-- Whether a writer has a handle of its lock. -/
def Writer.hasHandle (writer : Writer) : Bool := writer.phase != .released

/-- The locks for the ids that are being written, and their writers. -/
structure WriterLocks where
  /-- The lock for each id. -/
  table : Keyed Nat
  /-- The next lock that will be made. -/
  fresh : Nat
  writers : List Writer

namespace WriterLocks

/-- No locks and no writers. -/
def empty : WriterLocks := ⟨∅, 0, []⟩

/-- How many ids have a lock. -/
def active (locks : WriterLocks) : Nat := locks.table.size

/-- A writer by its number. -/
def writer? (locks : WriterLocks) (number : Nat) : Option Writer :=
  locks.writers.find? fun writer => writer.number == number

/-- Whether somebody holds a lock. -/
def isHeld (locks : WriterLocks) (lock : Nat) : Bool :=
  locks.writers.any fun writer => writer.lock == lock && writer.phase == .holding

/-- Whether somebody has a handle of a lock. -/
def isUsed (locks : WriterLocks) (lock : Nat) : Bool :=
  locks.writers.any fun writer => writer.lock == lock && writer.hasHandle

/-- Put a writer into another phase. -/
def move (locks : WriterLocks) (number : Nat) (phase : WriterPhase) : WriterLocks :=
  { locks with writers := locks.writers.map fun writer =>
      if writer.number = number then { writer with phase } else writer }

/-- Forget a writer. -/
def drop (locks : WriterLocks) (number : Nat) : WriterLocks :=
  { locks with writers := locks.writers.filter fun writer => writer.number != number }

/-- A writer comes and takes a handle of the lock for its id. -/
def arrive (locks : WriterLocks) (number : Nat) (id : String) : WriterLocks :=
  match locks.table.get? id with
  | some lock => { locks with writers := locks.writers ++ [⟨number, id, lock, .waiting⟩] }
  | none =>
    { table := locks.table.insert id locks.fresh
      fresh := locks.fresh + 1
      writers := locks.writers ++ [⟨number, id, locks.fresh, .waiting⟩] }

/-- A waiting writer gets its lock, if nobody holds it. -/
def enter? (locks : WriterLocks) (number : Nat) : Option WriterLocks :=
  match locks.writer? number with
  | some writer =>
    if writer.phase = .waiting ∧ !locks.isHeld writer.lock then some (locks.move number .holding)
    else none
  | none => none

/-- A waiting writer gives up. -/
def giveUp (locks : WriterLocks) (number : Nat) : WriterLocks := locks.drop number

/-- A writer releases its lock. -/
def release (locks : WriterLocks) (number : Nat) : WriterLocks := locks.move number .released

/-- A writer that has released its lock clears the table and goes. -/
def clear (locks : WriterLocks) (number : Nat) : WriterLocks :=
  match locks.writer? number with
  | some writer =>
    let others := locks.drop number
    match locks.table.get? writer.id with
    | some lock =>
      if locks.isUsed lock then others else { others with table := locks.table.erase writer.id }
    | none => others
  | none => locks

/-- A writer comes and gets the lock for its id at once, or goes again. -/
def acquireNow (locks : WriterLocks) (number : Nat) (id : String) : WriterLocks × Bool :=
  let waiting := locks.arrive number id
  match waiting.enter? number with
  | some locks => (locks, true)
  | none => (waiting.giveUp number, false)

/-- A writer releases its lock, clears the table and goes. -/
def leave (locks : WriterLocks) (number : Nat) : WriterLocks := (locks.release number).clear number

end WriterLocks
end Campus
