/-! # Slots

A place in a state that is read and written on its own.
-/

namespace Testbed

structure Slot (σ α : Type) where
  get : σ → α
  set : α → σ → σ

end Testbed
