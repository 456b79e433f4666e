import Mathlib.Data.List.Perm.Basic
import Mathlib.Logic.Function.Basic
import LedgerService.Reachability

set_option autoImplicit false

namespace LedgerService

open Transaction

-- A record as `store_success` leaves it.
structure IdempotencyRecord.Complete (record : IdempotencyRecord) : Prop where
  status : record.httpStatus = some created
  body : ∃ body resource, record.responseBody = some body ∧
    record.resultingResourceId = some resource ∧ body.lookup "id" = some resource.hyphenated

inductive Fulfilled (db : Db) (record : IdempotencyRecord) : Prop
  | account (id : Uuid) (account : Account) (found : db.account? id = some account)
      (operation : record.scope.operationType = .accountCreation)
      (result : record.resultingResourceId = some id)
      (client : record.scope.clientId = account.ownerId)
  | transfer (id : Uuid) (transfer : Transfer) (found : db.transfer? id = some transfer)
      (operation : record.scope.operationType = transfer.kind.operationType)
      (result : record.resultingResourceId = some id)
      (client : record.scope.clientId = transfer.initiatedBy)

def IdempotencyRecord.tag (record : IdempotencyRecord) : Option (Uuid ⊕ Uuid) :=
  record.resultingResourceId.map fun resource =>
    if record.scope.operationType = .accountCreation then .inl resource else .inr resource

def Db.tags (db : Db) : List (Option (Uuid ⊕ Uuid)) :=
  (db.accounts.map Account.id).map (fun id => some (.inl id)) ++
    (db.transfers.map Transfer.id).map fun id => some (.inr id)

structure Corresponding (db : Db) : Prop where
  complete : ∀ record ∈ db.idempotencyRecords, record.Complete
  fulfilled : ∀ record ∈ db.idempotencyRecords, Fulfilled db record
  tags : (db.idempotencyRecords.map IdempotencyRecord.tag).Perm db.tags

theorem operationType_ne (kind : TransferKind) : kind.operationType ≠ .accountCreation := by
  cases kind <;> simp [TransferKind.operationType]

section Steps

variable {platform : Platform} {attempt : Attempt} {configuration : Configuration} {db db' : Db}
  {reply : Reply} {record : IdempotencyRecord} {effect : Effect}

theorem Fulfilled.evolve (evolves : Evolves [] db db') (fulfilled : Fulfilled db record) :
    Fulfilled db' record := by
  cases fulfilled with
  | account id account found operation result client =>
    obtain ⟨account', found', same⟩ := evolves.account id account found
    exact .account id account' found' operation result (client.trans same.ownerId.symm)
  | transfer id transfer found operation result client =>
    exact .transfer id transfer (evolves.transfer id transfer found) operation result client

theorem Recorded.complete {resource : Uuid}
    (recorded : Recorded platform attempt db record reply resource) : record.Complete := by
  obtain ⟨body, status, responded, named, _⟩ := recorded.success
  exact ⟨status, body, resource, responded, recorded.result, named⟩

theorem Attempt.identity_client {scope : Scope} {fingerprint : String}
    (identity : attempt.identity platform db = some (scope, fingerprint)) :
    scope.clientId = attempt.clientId := by
  unfold Attempt.identity at identity
  split at identity
  · split at identity
    · cases identity
      rfl
    · cases identity
  · split at identity
    · obtain ⟨preliminary, _, identity⟩ := Option.bind_eq_some_iff.mp identity
      split at identity
      · cases identity
        rfl
      · cases identity
    · cases identity
  · split at identity
    · cases identity
      rfl
    · cases identity

theorem Corresponding.after (corresponding : Corresponding db)
    (holds : effect.Holds platform attempt configuration db reply) :
    Corresponding (db.after effect) := by
  have old : ∀ record ∈ db.idempotencyRecords, Fulfilled (db.after effect) record :=
    fun record member => (corresponding.fulfilled record member).evolve (evolves_after holds)
  cases effect with
  | replayed => exact corresponding
  | opened record account =>
    have client := Attempt.identity_client holds.recorded.identity
    refine ⟨?_, ?_, ?_⟩
    · intro other member
      rcases List.mem_append.mp member with earlier | new
      · exact corresponding.complete other earlier
      · exact List.mem_singleton.mp new ▸ holds.recorded.complete
    · intro other member
      rcases List.mem_append.mp member with earlier | new
      · exact old other earlier
      · obtain rfl := List.mem_singleton.mp new
        exact .account account.id account (by simp [holds.unused]) holds.operation
          holds.recorded.result (client.trans holds.owner.symm)
    · have tag : record.tag = some (.inl account.id) := by
        simp [IdempotencyRecord.tag, holds.recorded.result, holds.operation]
      simp only [Db.after, Db.tags, List.map_append, List.map_cons, List.map_nil, tag,
        List.append_assoc]
      refine (corresponding.tags.append_right _).trans ?_
      rw [Db.tags, List.append_assoc]
      exact List.perm_append_comm.append_left _
  | posted record transfer source destination debit credit =>
    obtain ⟨_, _, posted⟩ := holds
    have client := Attempt.identity_client posted.recorded.identity
    refine ⟨?_, ?_, ?_⟩
    · intro other member
      rcases List.mem_append.mp member with earlier | new
      · exact corresponding.complete other earlier
      · exact List.mem_singleton.mp new ▸ posted.recorded.complete
    · intro other member
      rcases List.mem_append.mp member with earlier | new
      · exact old other earlier
      · obtain rfl := List.mem_singleton.mp new
        exact .transfer transfer.id transfer (by simp [posted.performed.unused]) posted.operation
          posted.recorded.result (client.trans posted.performed.initiator.symm)
    · have tag : record.tag = some (.inr transfer.id) := by
        simp [IdempotencyRecord.tag, posted.recorded.result, posted.operation, operationType_ne]
      simp only [Db.after, Db.tags, Table.keys_replace, List.map_append, List.map_cons, List.map_nil,
        tag]
      rw [← List.append_assoc]
      exact corresponding.tags.append_right _

end Steps

theorem corresponding_inductive (platform : Platform) :
    Inductive platform fun _ db _ => Corresponding db where
  empty _ := ⟨by simp [Db.empty], by simp [Db.empty], .refl _⟩
  after _ corresponding holds := corresponding.after holds
  setStatus := by
    intro configuration db history id status _ corresponding
    refine ⟨corresponding.complete, ?_, ?_⟩
    · intro record member
      exact (corresponding.fulfilled record member).evolve (evolves_setStatus platform db id status)
    · rw [Db.tags, accounts_setStatus_ids]
      exact corresponding.tags
  grown _ _ corresponding := corresponding

theorem Ledger.Reachable.corresponding {platform : Platform} {ledger : Ledger}
    (reachable : ledger.Reachable platform) : Corresponding ledger.store :=
  (reachable.induction (corresponding_inductive platform)).2

abbrev Db.Resource (db : Db) : Type :=
  {account // account ∈ db.accounts} ⊕ {transfer // transfer ∈ db.transfers}

def IdempotencyRecord.Names (record : IdempotencyRecord) {db : Db} : db.Resource → Prop
  | .inl account =>
      record.scope.operationType = .accountCreation ∧
      record.resultingResourceId = some account.val.id ∧
      record.scope.clientId = account.val.ownerId
  | .inr transfer =>
      record.scope.operationType = transfer.val.kind.operationType ∧
      record.resultingResourceId = some transfer.val.id ∧
      record.scope.clientId = transfer.val.initiatedBy

def Db.Resource.tag {db : Db} : db.Resource → Option (Uuid ⊕ Uuid)
  | .inl account => some (.inl account.val.id)
  | .inr transfer => some (.inr transfer.val.id)

section Bijection

variable {db : Db}

theorem Fulfilled.names {record : IdempotencyRecord} (fulfilled : Fulfilled db record) :
    ∃ resource : db.Resource, record.Names resource := by
  cases fulfilled with
  | account id account found operation result client =>
    obtain rfl : account.id = id := Table.key_of_lookup found
    exact ⟨.inl ⟨account, Table.mem_of_lookup found⟩, operation, result, client⟩
  | transfer id transfer found operation result client =>
    obtain rfl : transfer.id = id := Table.key_of_lookup found
    exact ⟨.inr ⟨transfer, Table.mem_of_lookup found⟩, operation, result, client⟩

theorem IdempotencyRecord.Names.tag {record : IdempotencyRecord} {resource : db.Resource}
    (names : record.Names resource) : Db.Resource.tag resource = record.tag := by
  rcases resource with account | transfer
  · obtain ⟨operation, result, _⟩ := names
    simp [Db.Resource.tag, IdempotencyRecord.tag, operation, result]
  · obtain ⟨operation, result, _⟩ := names
    simp [Db.Resource.tag, IdempotencyRecord.tag, operation, result, operationType_ne]

theorem Keyed.tag_injective (keyed : Keyed db) :
    Function.Injective (@Db.Resource.tag db) := by
  intro first second same
  rcases first with ⟨account, member⟩ | ⟨transfer, member⟩ <;>
    rcases second with ⟨other, otherMember⟩ | ⟨other, otherMember⟩ <;>
      simp only [Db.Resource.tag, Option.some.injEq, reduceCtorEq, Sum.inl.injEq, Sum.inr.injEq]
        at same
  · obtain rfl := Table.eq_of_key_eq keyed.accounts member otherMember same
    rfl
  · obtain rfl := Table.eq_of_key_eq keyed.transfers member otherMember same
    rfl

theorem Keyed.tags_nodup (keyed : Keyed db) : db.tags.Nodup := by
  rw [Db.tags, List.nodup_append]
  refine ⟨keyed.accounts.map ?_, keyed.transfers.map ?_, ?_⟩
  · intro first second same
    simpa using same
  · intro first second same
    simpa using same
  · intro first member second otherMember same
    obtain ⟨_, _, rfl⟩ := List.mem_map.mp member
    obtain ⟨_, _, rfl⟩ := List.mem_map.mp otherMember
    simp at same

theorem Db.Resource.tag_mem (resource : db.Resource) : Db.Resource.tag resource ∈ db.tags := by
  rcases resource with ⟨account, member⟩ | ⟨transfer, member⟩
  · exact List.mem_append_left _ (List.mem_map_of_mem (List.mem_map_of_mem member))
  · exact List.mem_append_right _
      (List.mem_map_of_mem (List.mem_map_of_mem member))

theorem Corresponding.bijection (keyed : Keyed db) (corresponding : Corresponding db) :
    ∃ resource : {record // record ∈ db.idempotencyRecords} → db.Resource,
      Function.Bijective resource ∧
      ∀ record : {record // record ∈ db.idempotencyRecords}, record.val.Names (resource record) := by
  choose resource names using fun record : {record // record ∈ db.idempotencyRecords} =>
    (corresponding.fulfilled record.val record.property).names
  have unique := (corresponding.tags.nodup_iff).mpr keyed.tags_nodup
  refine ⟨resource, ⟨?_, ?_⟩, names⟩
  · intro first second same
    have tags : first.val.tag = second.val.tag := by
      rw [← (names first).tag, ← (names second).tag, same]
    exact Subtype.ext (@Table.eq_of_key_eq _ _ _ IdempotencyRecord.tag _ unique _ _ first.property
      second.property tags)
  · intro wanted
    obtain ⟨record, member, tag⟩ :=
      List.mem_map.mp (corresponding.tags.mem_iff.mpr (Db.Resource.tag_mem wanted))
    refine ⟨⟨record, member⟩, keyed.tag_injective ?_⟩
    rw [(names ⟨record, member⟩).tag, tag]

end Bijection

end LedgerService
