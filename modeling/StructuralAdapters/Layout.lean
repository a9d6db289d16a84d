import StructuralAdapters.Sha256

/-!
# Layout streams and their fingerprints

An adapter's layout is written as a sequence of components, and its fingerprint is a hash of their
bytes.

* `LayoutComponent`: a text or a flag;
* `LayoutComponent.stream`: the bytes that are hashed;
* `LayoutComponent.fingerprint`: the hash in hexadecimal.

A text is followed by a null byte, so that the parts of two neighbouring texts cannot be moved from
one to the other; a flag is a single byte.
-/

namespace StructuralAdapters

/-- One component of a layout. -/
inductive LayoutComponent where
  | text (s : String)
  | flag (b : Bool)
  deriving DecidableEq

namespace LayoutComponent

/-- The bytes of one component. -/
def bytes : LayoutComponent → List UInt8
  | text s => s.toUTF8.toList ++ [0]
  | flag b => [if b then 1 else 0]

/-- The bytes of a layout. -/
def stream (components : List LayoutComponent) : List UInt8 :=
  components.flatMap bytes

/-- The hash of a layout's bytes. -/
def fingerprint (components : List LayoutComponent) : String :=
  Sha256.hexDigest (stream components)

end LayoutComponent

end StructuralAdapters
