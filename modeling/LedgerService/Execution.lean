import LedgerService.Locking

set_option autoImplicit false

namespace LedgerService

theorem checked_eq_ok {α : Type} {checks : List (Bool × DbError)} {value result : α} :
    (firstViolation checks).map (fun _ => value) = .ok result ↔
      firstViolation checks = .ok () ∧ value = result := by
  cases checked : firstViolation checks with
  | ok _ => simp [Except.map]
  | error error => simp [Except.map]

namespace Db

variable (db : Db) (write : Write)

@[simp] theorem account?_apply (id : Uuid) :
    (db.apply write).account? id =
      match write with
      | .insertAccount row => (db.account? id).or (if row.id = id then some row else none)
      | .replaceAccount row => (db.account? id).map fun old => if row.id = id then row else old
      | _ => db.account? id := by
  cases write with
  | insertAccount row => exact Table.lookup_append _ _ _
  | replaceAccount row => exact Table.lookup_replace _ _ _
  | _ => rfl

@[simp] theorem transfer?_apply (id : Uuid) :
    (db.apply write).transfer? id =
      match write with
      | .insertTransfer row => (db.transfer? id).or (if row.id = id then some row else none)
      | _ => db.transfer? id := by
  cases write with
  | insertTransfer row => exact Table.lookup_append _ _ _
  | _ => rfl

@[simp] theorem reversed_apply (id : Uuid) :
    (db.apply write).reversed id =
      match write with
      | .insertTransfer row => db.reversed id || decide (row.reversesTransferId = some id)
      | _ => db.reversed id := by
  cases write with
  | insertTransfer row => simp [reversed, Db.apply]
  | _ => rfl

@[simp] theorem entryRow?_apply (id : Uuid) :
    (db.apply write).entryRow? id =
      match write with
      | .insertEntry row => (db.entryRow? id).or (if row.id = id then some row else none)
      | _ => db.entryRow? id := by
  cases write with
  | insertEntry row => exact Table.lookup_append _ _ _
  | _ => rfl

@[simp] theorem record?_apply (scope : Scope) :
    (db.apply write).record? scope =
      match write with
      | .insertRecord row => (db.record? scope).or (if row.scope = scope then some row else none)
      | .replaceRecord row =>
          (db.record? scope).map fun old => if row.scope = scope then row else old
      | _ => db.record? scope := by
  cases write with
  | insertRecord row => exact Table.lookup_append _ _ _
  | replaceRecord row => exact Table.lookup_replace _ _ _
  | _ => rfl

end Db

section Inversion

variable {platform : Platform} {now : Timestamp} {configuration : Configuration} {db : Db}

theorem insertRecord_eq_ok {scope : Scope} {fingerprint : String} {retention : I64} {count : Nat}
    {writes : List Write} :
    insertRecord platform now db scope fingerprint retention = .ok (count, writes) ↔
      ∃ expiresAt, platform.expiresAt now retention = some expiresAt ∧
        firstViolation (recordChecks platform (reservation now expiresAt scope fingerprint)) =
          .ok () ∧
        ((∃ row, db.record? scope = some row ∧ count = 0 ∧ writes = []) ∨
          (db.record? scope = none ∧ count = 1 ∧
            writes = [.insertRecord (reservation now expiresAt scope fingerprint)])) := by
  unfold insertRecord
  cases expires : platform.expiresAt now retention with
  | none => simp
  | some expiresAt =>
    simp only [checked_eq_ok, Option.some.injEq, exists_eq_left']
    cases db.record? scope <;> simp [eq_comm]

theorem updateAccount_eq_ok {balance : I64} {id : Uuid} {count : Nat} {writes : List Write} :
    updateAccount now db balance id = .ok (count, writes) ↔
      (db.account? id = none ∧ count = 0 ∧ writes = []) ∨
      ∃ row version, db.account? id = some row ∧ version.val = row.version.val + 1 ∧ count = 1 ∧
        writes = [.replaceAccount (row.update now balance version)] := by
  unfold updateAccount
  cases db.account? id with
  | none => simp [eq_comm]
  | some row =>
    simp only [Option.some.injEq, reduceCtorEq, false_and, false_or, exists_and_left,
      exists_eq_left', ← I64.tryFrom_eq_some]
    cases I64.tryFrom (row.version.val + 1) <;> simp [eq_comm]

theorem updateRecord_eq_ok {scope : Scope} {status : Int} {body : Value} {resource : Uuid}
    {count : Nat} {writes : List Write} :
    updateRecord platform db scope status body resource = .ok (count, writes) ↔
      (db.record? scope = none ∧ count = 0 ∧ writes = []) ∨
      ∃ row, db.record? scope = some row ∧
        firstViolation (recordChecks platform (row.complete status body resource)) = .ok () ∧
        count = 1 ∧ writes = [.replaceRecord (row.complete status body resource)] := by
  unfold updateRecord
  cases db.record? scope with
  | none => simp [eq_comm]
  | some row => simp only [checked_eq_ok]; simp [eq_comm]

theorem insertTransfer_eq_ok {values : TransferValues} {createdAt : String}
    {writes : List Write} :
    insertTransfer platform now configuration db values = .ok (createdAt, writes) ↔
      ∃ rate, castRate values.exchangeRate = .ok rate ∧
        firstViolation (transferChecks platform configuration db (values.row now rate)) = .ok () ∧
        createdAt = platform.timestampText now ∧
        writes = [.insertTransfer (values.row now rate)] := by
  unfold insertTransfer
  cases castRate values.exchangeRate with
  | error error => simp
  | ok rate => simp only [checked_eq_ok]; simp [eq_comm]

end Inversion

end LedgerService
