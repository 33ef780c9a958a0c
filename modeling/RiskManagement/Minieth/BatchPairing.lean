import Mathlib.Data.List.Nodup
import RiskManagement.Library.Word64
import RiskManagement.Minieth.JsonRpc

/-!
# Pairing responses with calls

A reply is accepted only if its ids, once sorted, are the ids of the batch.
Then each id has exactly one response, and sorting has put it in the place of
its call.
-/

namespace RiskManagement

/-! ### The ids of a batch -/

theorem toNat_add_ofNat {base : UInt64} {offset : Nat}
    (fits : base.toNat + offset < 2 ^ 64) :
    (base + .ofNat offset).toNat = base.toNat + offset := by
  rw [UInt64.toNat_add, UInt64.toNat_ofNat']
  omega

theorem idRange_eq {base : UInt64} {count : Nat}
    (fits : base.toNat + count < 2 ^ 64) :
    idRange base (base + .ofNat count) =
      (List.range count).map fun index => base + .ofNat index := by
  rw [idRange, toNat_add_ofNat fits, Nat.add_sub_cancel_left]
  apply List.ext_getElem
  · simp
  · intro index inside _
    rw [List.length_map, List.length_range'] at inside
    rw [← UInt64.toNat_inj]
    simp only [List.getElem_map, List.getElem_range', List.getElem_range]
    rw [toNat_add_ofNat (by omega), UInt64.toNat_ofNat']
    omega

theorem batchIds_nodup {base : UInt64} {count : Nat}
    (fits : base.toNat + count < 2 ^ 64) :
    ((List.range count).map fun index => base + .ofNat index).Nodup := by
  apply List.Nodup.map_on ?_ List.nodup_range
  intro left leftMember right rightMember same
  rw [List.mem_range] at leftMember rightMember
  rw [← UInt64.toNat_inj, toNat_add_ofNat (by omega),
    toNat_add_ofNat (by omega)] at same
  omega

/-! ### One reply -/

/-- The response to each call is the only one with the id of its request. -/
structure Answers (baseId : UInt64) (calls : List Call)
    (decoded : List JsonRpcResponse) (results : List CallResponse) :
    Prop where
  length_eq : results.length = calls.length
  paired : ∀ index (inside : index < calls.length), ∃ response,
    decoded.filter (fun other => decide (other.id =
        (ServerState.request baseId index calls[index]).id)) = [response] ∧
      response.jsonrpc = jsonrpcVersion ∧
      results[index]? = some response.toCallResponse

theorem checkResponses_eq_ok {baseId : UInt64} {calls : List Call}
    {decoded responses : List JsonRpcResponse}
    (accepted : checkResponses baseId calls decoded = .ok responses) :
    responses.Perm decoded ∧
      responses.map JsonRpcResponse.id =
        idRange baseId (baseId + .ofNat calls.length) ∧
      ∀ response ∈ responses, response.jsonrpc = jsonrpcVersion := by
  rw [checkResponses] at accepted
  split at accepted
  · cases accepted
  · rename_i sameIds
    split at accepted
    · cases accepted
    · rename_i versions
      cases accepted
      refine ⟨List.mergeSort_perm _ _, (not_not.mp sameIds).symm, ?_⟩
      intro response member
      rw [List.find?_eq_none] at versions
      simpa using versions response member

/-- In a list with distinct ids an id picks out one response. -/
theorem filter_id_eq {responses decoded : List JsonRpcResponse}
    (permutation : responses.Perm decoded)
    (distinct : (responses.map JsonRpcResponse.id).Nodup)
    {response : JsonRpcResponse} (member : response ∈ responses) :
    decoded.filter (fun other => decide (other.id = response.id)) =
      [response] := by
  apply List.perm_singleton.mp
  apply (permutation.symm.filter _).trans
  obtain ⟨before, after, rfl⟩ := List.append_of_mem member
  rw [List.map_append, List.map_cons, List.nodup_middle,
    List.nodup_cons] at distinct
  have others : ∀ other ∈ before ++ after, other.id ≠ response.id := by
    intro other otherMember same
    apply distinct.1
    rw [← same, ← List.map_append]
    exact List.mem_map_of_mem otherMember
  have noneBefore : before.filter
      (fun other => decide (other.id = response.id)) = [] := by
    rw [List.filter_eq_nil_iff]
    intro other otherMember
    simpa using others other (List.mem_append_left _ otherMember)
  have noneAfter : after.filter
      (fun other => decide (other.id = response.id)) = [] := by
    rw [List.filter_eq_nil_iff]
    intro other otherMember
    simpa using others other (List.mem_append_right _ otherMember)
  rw [List.filter_append, List.filter_cons_of_pos (by simp), noneBefore,
    noneAfter]
  exact .refl _

/-- An accepted reply answers the calls one by one. -/
theorem answers_of_checkResponses {baseId : UInt64} {calls : List Call}
    {decoded responses : List JsonRpcResponse}
    (fits : baseId.toNat + calls.length < 2 ^ 64)
    (accepted : checkResponses baseId calls decoded = .ok responses) :
    Answers baseId calls decoded
      (responses.map JsonRpcResponse.toCallResponse) := by
  obtain ⟨permutation, ids, versions⟩ := checkResponses_eq_ok accepted
  rw [idRange_eq fits] at ids
  have length : responses.length = calls.length := by
    have same := congrArg List.length ids
    simpa using same
  have distinct : (responses.map JsonRpcResponse.id).Nodup := by
    rw [ids]
    exact batchIds_nodup fits
  constructor
  · rw [List.length_map, length]
  · intro index inside
    have inResponses : index < responses.length := by omega
    have isId : responses[index].id = baseId + .ofNat index := by
      have same := congrArg (fun list => list[index]?) ids
      simpa [inResponses, inside] using same
    have member : responses[index] ∈ responses := List.getElem_mem _
    refine ⟨responses[index], ?_, versions _ member, ?_⟩
    · rw [ServerState.request, ← isId]
      exact filter_id_eq permutation distinct member
    · rw [List.getElem?_map, List.getElem?_eq_getElem inResponses]
      rfl

end RiskManagement
