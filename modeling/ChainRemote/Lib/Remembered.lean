import ChainRemote.Lib.Machine

/-!
# Machines that remember

A machine beside the last notable step it took: the state before it and its event. What such a step
brings about, and every other step keeps, holds of the state reached from the step that is
remembered.
-/

namespace Lib.Machine

variable {σ ε : Type}

variable {m : Machine σ ε} {notable : ε → Bool} {guard : σ → ε → Prop}

end Lib.Machine
