import Rgbd.Stream

/-!
Collections keyed by stream.

A `StreamMap` holds at most one value per stream, kept in stream order, so iterating it
visits streams by modality rank and then by index.
-/

namespace Rgbd

/-- Values keyed by stream, in stream order. -/
structure StreamMap (α : Type) where
  entries : List (StreamKey × α) := []
  deriving Inhabited

namespace StreamMap

variable {α β : Type}

def empty : StreamMap α := {}

def insertEntry (k : StreamKey) (v : α) : List (StreamKey × α) → List (StreamKey × α)
  | [] => [(k, v)]
  | (k', v') :: rest =>
    match compare k k' with
    | .lt => (k, v) :: (k', v') :: rest
    | .eq => (k, v) :: rest
    | .gt => (k', v') :: insertEntry k v rest

def insert (m : StreamMap α) (k : StreamKey) (v : α) : StreamMap α := ⟨insertEntry k v m.entries⟩

def ofList (l : List (StreamKey × α)) : StreamMap α := l.foldl (fun m (k, v) => m.insert k v) {}

def find? (m : StreamMap α) (k : StreamKey) : Option α := (m.entries.find? (·.1 == k)).map (·.2)

def contains (m : StreamMap α) (k : StreamKey) : Bool := m.entries.any (·.1 == k)

def keys (m : StreamMap α) : List StreamKey := m.entries.map (·.1)

def values (m : StreamMap α) : List α := m.entries.map (·.2)

def isEmpty (m : StreamMap α) : Bool := m.entries.isEmpty

def modify (m : StreamMap α) (k : StreamKey) (f : α → α) : StreamMap α :=
  ⟨m.entries.map fun (k', v) => if k' == k then (k', f v) else (k', v)⟩

def map (f : α → β) (m : StreamMap α) : StreamMap β := ⟨m.entries.map fun (k, v) => (k, f v)⟩

end StreamMap

end Rgbd
