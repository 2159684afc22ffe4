import NearMiss.Grouping
import NearMiss.Method

/-!
# The index of known shapes

The interface methods of a corpus under the keys of their shapes. It is made once from the corpus;
each bucket keeps the order of the corpus.
-/

namespace NearMiss

/-- Interface methods by the key of their shape. -/
structure Index where
  /-- The buckets. -/
  buckets : Grouping String InterfaceMethod
  deriving Repr

namespace Index

/-- The index of a corpus. -/
def build (corpus : List InterfaceMethod) : Index :=
  ⟨Grouping.ofList (fun entry => entry.key) corpus⟩

/-- The bucket of a key. -/
def get? (index : Index) (key : String) : Option (List InterfaceMethod) :=
  index.buckets.get? key

/-- The bucket of a method's shape. -/
def lookup? (index : Index) (m : Method) : Option (List InterfaceMethod) :=
  index.get? m.key

/-- The keys in order of first occurrence. -/
def keys (index : Index) : List String :=
  index.buckets.keys

/-- The number of different shapes. -/
def size (index : Index) : Nat :=
  index.buckets.size

/-- Whether some entry has the key. -/
def contains (index : Index) (key : String) : Bool :=
  index.buckets.contains key

end Index

end NearMiss
