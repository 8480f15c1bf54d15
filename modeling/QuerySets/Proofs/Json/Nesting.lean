import QuerySets.Json.Draft
import QuerySets.Proofs.Fields

/-!
How deep the values of JSON texts are nested. Each container that is read takes up a part of
the room that there is for them, so no value of a text is nested deeper than the limit.
-/

namespace QuerySets.Json

theorem depthMembers_le_iff {members : List (String × Json)} {bound : Nat} :
    depthMembers members ≤ bound ↔ ∀ member ∈ members, member.2.depth ≤ bound := by
  induction members with
  | nil => simp [depthMembers]
  | cons member rest ih =>
    obtain ⟨key, item⟩ := member
    rw [depthMembers, Nat.max_le, ih, List.forall_mem_cons]

/-- A member that is written again takes the place of the earlier one. -/
theorem depthMembers_ofList_le (pairs : List (String × Json)) :
    depthMembers (Fields.ofList pairs).entries ≤ depthMembers pairs := by
  have hpairs := depthMembers_le_iff.mp (Nat.le_refl (depthMembers pairs))
  exact depthMembers_le_iff.mpr fun member hmember => hpairs member (Fields.mem_ofList hmember)

namespace Draft

-- By the recursion of the reading: on the value, the items and the members.
mutual
theorem depth_toJson? : ∀ {draft : Draft} {room : Nat} {j : Json},
    draft.toJson? room = some j → j.depth ≤ room
  | .null, _, _, h => by
    cases h
    exact Nat.zero_le _
  | .bool _, _, _, h => by
    cases h
    exact Nat.zero_le _
  | .number _, _, _, h => by
    obtain ⟨_, -, rfl⟩ := Option.map_eq_some_iff.mp h
    exact Nat.zero_le _
  | .string _, _, _, h => by
    obtain ⟨_, -, rfl⟩ := Option.map_eq_some_iff.mp h
    exact Nat.zero_le _
  | .array _ true, _ + 1, _, h => by
    obtain ⟨_, hitems, rfl⟩ := Option.map_eq_some_iff.mp h
    exact Nat.succ_le_succ (depthItems_itemsToJson? hitems)
  | .array _ false, room, _, h => by
    cases room <;> cases h
  | .object _ true, _ + 1, _, h => by
    obtain ⟨pairs, hpairs, rfl⟩ := Option.map_eq_some_iff.mp h
    have hdepth : depthMembers pairs ≤ _ := depthMembers_membersToJson? hpairs
    exact Nat.succ_le_succ (Nat.le_trans (depthMembers_ofList_le pairs) hdepth)
  | .object _ false, room, _, h => by
    cases room <;> cases h

theorem depthItems_itemsToJson? : ∀ {parts : List Draft} {room : Nat} {items : List Json},
    itemsToJson? room parts = some items → depthItems items ≤ room
  | [], _, _, h => by
    cases h
    exact Nat.zero_le _
  | part :: rest, _, _, h => by
    obtain ⟨item, hitem, h⟩ := Option.bind_eq_some_iff.mp h
    obtain ⟨others, hothers, h⟩ := Option.bind_eq_some_iff.mp h
    cases h
    exact Nat.max_le.mpr ⟨depth_toJson? hitem, depthItems_itemsToJson? hothers⟩

theorem depthMembers_membersToJson? : ∀ {parts : List (Option String × Draft)} {room : Nat}
    {pairs : List (String × Json)}, membersToJson? room parts = some pairs →
      depthMembers pairs ≤ room
  | [], _, _, h => by
    cases h
    exact Nat.zero_le _
  | (key, part) :: rest, _, _, h => by
    obtain ⟨key, -, h⟩ := Option.bind_eq_some_iff.mp h
    obtain ⟨item, hitem, h⟩ := Option.bind_eq_some_iff.mp h
    obtain ⟨others, hothers, h⟩ := Option.bind_eq_some_iff.mp h
    cases h
    exact Nat.max_le.mpr ⟨depth_toJson? hitem, depthMembers_membersToJson? hothers⟩
end

end Draft

/-- A text is not read as a value that is nested deeper than the limit. -/
theorem depth_ofText? {text : String} {j : Json} (h : ofText? text = some j) :
    j.depth ≤ depthLimit := by
  unfold ofText? at h
  split at h
  · exact Draft.depth_toJson? h
  · cases h

end QuerySets.Json
