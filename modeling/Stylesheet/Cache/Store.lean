import Stylesheet.Cache.Entry

/-!
# Stores

A store holds the entries of one kind by fingerprint, in the order of their admission. A sweep keeps the entries that were used lately enough and, if these are too many, the ones used last; of two entries used at the same time the one with the larger fingerprint counts as the later.
-/

namespace Stylesheet

namespace Cache

abbrev Store := List (Fingerprint × Entry)

namespace Store

/-! ### Entries by fingerprint -/

def find? (fingerprint : Fingerprint) : Store → Option Entry
  | [] => none
  | (other, entry) :: rest => if other = fingerprint then some entry else find? fingerprint rest

def contains (fingerprint : Fingerprint) (store : Store) : Bool := (store.find? fingerprint).isSome

/-- Adds an entry under a fingerprint that is not in the store. -/
def add (fingerprint : Fingerprint) (entry : Entry) (store : Store) : Store :=
  store ++ [(fingerprint, entry)]

def modify (fingerprint : Fingerprint) (change : Entry → Entry) (store : Store) : Store :=
  store.map fun (other, entry) =>
    if other = fingerprint then (other, change entry) else (other, entry)

/-- Whether the entry under a fingerprint still carries an identifier. -/
def carries (fingerprint : Fingerprint) (identifier : Identifier) (store : Store) : Bool :=
  match store.find? fingerprint with
  | none => false
  | some entry => entry.identifier = identifier

def markMaterialized (fingerprint : Fingerprint) (identifier : Identifier) (store : Store) :
    Store :=
  if store.carries fingerprint identifier then
    store.modify fingerprint fun entry => { entry with materialized := true }
  else store

def removeIfIssued (fingerprint : Fingerprint) (identifier : Identifier) (store : Store) : Store :=
  if store.carries fingerprint identifier then store.filter (·.1 ≠ fingerprint) else store

def bytes (store : Store) : Nat :=
  store.foldl (fun total item => total + item.2.bytes) 0

/-! ### Sweeping -/

/-- Whether an entry was used before another. -/
def precedes (earlier later : Fingerprint × Entry) : Bool :=
  earlier.2.lastUsedAt < later.2.lastUsedAt
    || (earlier.2.lastUsedAt = later.2.lastUsedAt && earlier.1.word < later.1.word)

def fresh (now : Time) (maxIdle : Nat) (store : Store) : Store :=
  store.filter fun (_, entry) => entry.idle now ≤ maxIdle

/-- Whether fewer than `limit` entries were used after this one. -/
def isRecent (limit : Nat) (store : Store) (item : Fingerprint × Entry) : Bool :=
  store.length ≤ limit || store.countP (precedes item) < limit

def survives (now : Time) (maxIdle limit : Nat) (fresh : Store) (item : Fingerprint × Entry) :
    Bool :=
  item.2.idle now ≤ maxIdle && isRecent limit fresh item

/-- What a sweep keeps. -/
def kept (now : Time) (maxIdle limit : Nat) (store : Store) : Store :=
  let fresh := store.fresh now maxIdle
  store.filter (survives now maxIdle limit fresh)

/-- What a sweep removes. -/
def removed (now : Time) (maxIdle limit : Nat) (store : Store) : Store :=
  let fresh := store.fresh now maxIdle
  store.filter fun item => !survives now maxIdle limit fresh item

/-! ### Listing -/

/-- The oldest entry first, and of two of the same age the one with the smaller fingerprint. -/
def listed (now : Time) (store : Store) : Store :=
  store.mergeSort fun left right =>
    right.2.age now < left.2.age now
      || (left.2.age now = right.2.age now && left.1.word ≤ right.1.word)

end Store

end Cache

end Stylesheet
