import RiskManagement.Miniabi.AbiEncode

/-!
# Token amounts
-/

namespace RiskManagement

/-- An amount of a token that a message transfers. -/
structure EVMTokenAmount where
  token : Address
  amount : U256
deriving DecidableEq

instance : IntoValue EVMTokenAmount :=
  ⟨fun v => .tuple [into v.token, into v.amount]⟩

instance : IntoType EVMTokenAmount (.tuple [.address, .u256]) where
  hasValue v := ⟨_, rfl, .into v.token (.into v.amount .nil)⟩
  injective left right same := by
    obtain ⟨leftToken, leftAmount⟩ := left
    obtain ⟨rightToken, rightAmount⟩ := right
    simp only [into, Value.tuple.injEq, List.cons.injEq,
      Value.address.injEq, Value.u256.injEq, and_true] at same
    rw [same.1, same.2]

end RiskManagement
