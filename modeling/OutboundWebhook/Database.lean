import OutboundWebhook.Schema

/-!
# Transactions and the statements they are made of

A transaction body reads and writes a working copy of the tables. `transact` publishes the copy
when the body succeeds and drops it when the body fails, which is what `COMMIT` and `ROLLBACK` do;
a panic unwinds through the transaction and drops it too.

The statements are the three shapes the plugin issues: an `INSERT` into either table that yields
to a conflict, and an `UPDATE` of deliveries. Each returns the number of rows it affected, and
each refuses rows that fail a `CHECK`. As in PostgreSQL a `CHECK` is evaluated before the conflict
is looked for, so a receipt that fails one is an error even when its key is taken.

## Main results

* `insertAttempt_eq_ok`, `updateDeliveries_eq_ok` — what the statements do when nothing is refused
* `transact_of_eq_ok`, `transact_of_eq_error` — commit and rollback
-/

namespace OutboundWebhook

inductive StoreError
  /-- `operation` failed; `source` names the constraint. -/
  | database (operation source : String)
  | invariant (detail : String)
  deriving DecidableEq

/-- `PostgreSQL operation ... failed` and `... persistence invariant failed: ...`. -/
def StoreError.toString : StoreError → String
  | .database operation _ => "PostgreSQL operation `" ++ operation ++ "` failed"
  | .invariant detail => "Outbound Webhook persistence invariant failed: " ++ detail

/-- A call that does not return a value returns an error or panics. -/
inductive Abort (ε : Type)
  | error (e : ε)
  | panic (message : String)
  deriving DecidableEq

/-- A transaction body over a working copy of the tables. -/
abbrev Transaction := StateT Db (Except (Abort StoreError))

/-- Commit the working copy, or roll back. -/
def transact {α : Type} (body : Transaction α) (db : Db) : Except (Abort StoreError) α × Db :=
  match body db with
  | .ok (a, db') => (.ok a, db')
  | .error e => (.error e, db)

variable {α β : Type} {body : Transaction α} {db db' : Db}

theorem transact_of_eq_ok {a : α} (h : body db = .ok (a, db')) :
    transact body db = (.ok a, db') := by
  simp [transact, h]

theorem transact_of_eq_error {e : Abort StoreError} (h : body db = .error e) :
    transact body db = (.error e, db) := by
  simp [transact, h]

theorem bind_of_eq_ok {a : α} (h : body db = .ok (a, db')) (f : α → Transaction β) :
    (body >>= f) db = f a db' := by
  simp [bind, StateT.bind, h, Except.bind]

theorem bind_of_eq_error {e : Abort StoreError} (h : body db = .error e) (f : α → Transaction β) :
    (body >>= f) db = .error e := by
  simp [bind, StateT.bind, h, Except.bind]

@[simp] theorem pure_apply (a : α) : (pure a : Transaction α) db = .ok (a, db) := rfl

@[simp] theorem get_apply : (get : Transaction Db) db = .ok (db, db) := rfl

/-- Fail, and so roll back. -/
def abort (e : Abort StoreError) : Transaction α := fun _ => .error e

@[simp] theorem abort_apply (e : Abort StoreError) :
    (abort e : Transaction α) db = .error e := rfl

/-! ### Binding integers -/

/-- The values of an `integer` column. -/
def FitsI32 (n : ℤ) : Prop := -2147483648 ≤ n ∧ n ≤ 2147483647

instance (n : ℤ) : Decidable (FitsI32 n) := inferInstanceAs (Decidable (_ ∧ _))

/-- `i32::try_from(n).expect(expectation)`. -/
def i32 (n : ℤ) (expectation : String) : Transaction ℤ :=
  if FitsI32 n then pure n else abort (.panic expectation)

theorem i32_of_fits {n : ℤ} (h : FitsI32 n) (expectation : String) : i32 n expectation = pure n :=
  if_pos h

theorem i32_of_not_fits {n : ℤ} (h : ¬FitsI32 n) (expectation : String) :
    i32 n expectation = abort (.panic expectation) :=
  if_neg h

/-- The same for a nullable column. -/
def optionI32 (n : Option ℤ) (expectation : String) : Transaction (Option ℤ) :=
  match n with
  | none => pure none
  | some n => some <$> i32 n expectation

theorem optionI32_of_fits {n : Option ℤ} (h : ∀ m ∈ n, FitsI32 m) (expectation : String) :
    optionI32 n expectation = pure n := by
  cases n with
  | none => rfl
  | some m => simp [optionI32, i32_of_fits (h m rfl)]

theorem optionI32_of_not_fits {n : ℤ} (h : ¬FitsI32 n) (expectation : String) :
    (optionI32 (some n) expectation) db = .error (.panic expectation) := by
  simp only [optionI32, i32_of_not_fits h]
  rfl

/-! ### `INSERT INTO webhook_deliveries` -/

/-- `ON CONFLICT DO NOTHING`, for either unique column. -/
def insertDelivery (operation : String) (row : DeliveryRow) : Transaction ℕ := fun db =>
  if hcheck : row.violation = none then
    if hfree : row.deliveryId ∉ db.deliveries.map DeliveryRow.deliveryId
        ∧ row.eventId ∉ db.deliveries.map DeliveryRow.eventId then
      .ok (1, { db with
        deliveries := db.deliveries ++ [row]
        deliveries_pkey := KeyedTable.nodup_map_append_singleton db.deliveries_pkey hfree.1
        deliveries_event_id_key :=
          KeyedTable.nodup_map_append_singleton db.deliveries_event_id_key hfree.2
        deliveries_check := by
          intro r hr
          rcases List.mem_append.mp hr with hr | hr
          · exact db.deliveries_check r hr
          · rw [List.mem_singleton.mp hr]
            exact hcheck
        attempts_fkey := by
          intro a ha
          rw [List.map_append]
          exact List.mem_append_left _ (db.attempts_fkey a ha) })
    else .ok (0, db)
  else .error (.error (.database operation (row.violation.getD "")))

theorem insertDelivery_of_conflict (operation : String) {row : DeliveryRow}
    (hcheck : row.violation = none)
    (h : row.deliveryId ∈ db.deliveries.map DeliveryRow.deliveryId
      ∨ row.eventId ∈ db.deliveries.map DeliveryRow.eventId) :
    insertDelivery operation row db = .ok (0, db) := by
  have hfree : ¬(row.deliveryId ∉ db.deliveries.map DeliveryRow.deliveryId
      ∧ row.eventId ∉ db.deliveries.map DeliveryRow.eventId) := by tauto
  rw [insertDelivery, dif_pos hcheck, dif_neg hfree]

theorem insertDelivery_of_free (operation : String) {row : DeliveryRow}
    (hcheck : row.violation = none)
    (hid : row.deliveryId ∉ db.deliveries.map DeliveryRow.deliveryId)
    (hevent : row.eventId ∉ db.deliveries.map DeliveryRow.eventId) :
    ∃ db', insertDelivery operation row db = .ok (1, db') ∧
      db'.deliveries = db.deliveries ++ [row] ∧ db'.attempts = db.attempts := by
  rw [insertDelivery, dif_pos hcheck, dif_pos ⟨hid, hevent⟩]
  exact ⟨_, rfl, rfl, rfl⟩

/-! ### `INSERT INTO webhook_delivery_attempts` -/

/-- `ON CONFLICT (delivery_id, replay_count, attempt) DO NOTHING`. -/
def insertAttempt (operation : String) (a : AttemptRow) : Transaction ℕ := fun db =>
  if hcheck : a.violation = none then
    if hkey : a.key ∈ db.attempts.map AttemptRow.key then .ok (0, db)
    else if hfkey : a.deliveryId ∈ db.deliveries.map DeliveryRow.deliveryId then
      .ok (1, { db with
        attempts := db.attempts ++ [a]
        attempts_pkey := KeyedTable.nodup_map_append_singleton db.attempts_pkey hkey
        attempts_fkey := by
          intro b hb
          rcases List.mem_append.mp hb with hb | hb
          · exact db.attempts_fkey b hb
          · rw [List.mem_singleton.mp hb]
            exact hfkey
        attempts_check := by
          intro b hb
          rcases List.mem_append.mp hb with hb | hb
          · exact db.attempts_check b hb
          · rw [List.mem_singleton.mp hb]
            exact hcheck })
    else .error (.error (.database operation "webhook_delivery_attempts_delivery_id_fkey"))
  else .error (.error (.database operation (a.violation.getD "")))

theorem insertAttempt_eq_ok (operation : String) {a : AttemptRow} (hcheck : a.violation = none)
    (hfkey : a.deliveryId ∈ db.deliveries.map DeliveryRow.deliveryId) :
    ∃ n db', insertAttempt operation a db = .ok (n, db') ∧ db'.deliveries = db.deliveries ∧
      db'.attempts = KeyedTable.insertNew AttemptRow.key a db.attempts := by
  by_cases hkey : a.key ∈ db.attempts.map AttemptRow.key
  · rw [insertAttempt, dif_pos hcheck, dif_pos hkey]
    exact ⟨0, db, rfl, rfl, (KeyedTable.insertNew_of_mem hkey).symm⟩
  · rw [insertAttempt, dif_pos hcheck, dif_neg hkey, dif_pos hfkey]
    exact ⟨1, _, rfl, rfl, (KeyedTable.insertNew_of_notMem hkey).symm⟩

theorem insertAttempt_of_violation {operation : String} {a : AttemptRow}
    (hcheck : a.violation ≠ none) :
    insertAttempt operation a db
      = .error (.error (.database operation (a.violation.getD ""))) := by
  rw [insertAttempt, dif_neg hcheck]

/-- What an insert of a receipt may violate. -/
def attemptConstraints : List String :=
  ["webhook_attempt_number_valid", "webhook_attempt_status_valid",
    "webhook_delivery_attempts_delivery_id_fkey"]

theorem AttemptRow.violation_mem {a : AttemptRow} (h : a.violation ≠ none) :
    a.violation.getD "" ∈ attemptConstraints := by
  unfold AttemptRow.violation at h ⊢
  split
  · simp [attemptConstraints]
  split
  · simp [attemptConstraints]
  · simp_all

/-- Whatever an insert returns, it leaves the deliveries alone, and it fails only with an error. -/
theorem insertAttempt_cases (operation : String) (a : AttemptRow) (db : Db) :
    (∃ source ∈ attemptConstraints,
      insertAttempt operation a db = .error (.error (.database operation source))) ∨
      ∃ n db', insertAttempt operation a db = .ok (n, db') ∧ db'.deliveries = db.deliveries := by
  by_cases hcheck : a.violation = none
  · by_cases hkey : a.key ∈ db.attempts.map AttemptRow.key
    · rw [insertAttempt, dif_pos hcheck, dif_pos hkey]
      exact .inr ⟨_, _, rfl, rfl⟩
    · by_cases hfkey : a.deliveryId ∈ db.deliveries.map DeliveryRow.deliveryId
      · rw [insertAttempt, dif_pos hcheck, dif_neg hkey, dif_pos hfkey]
        exact .inr ⟨_, _, rfl, rfl⟩
      · rw [insertAttempt, dif_pos hcheck, dif_neg hkey, dif_neg hfkey]
        exact .inl ⟨_, by simp [attemptConstraints], rfl⟩
  · exact .inl ⟨_, AttemptRow.violation_mem hcheck, insertAttempt_of_violation hcheck⟩

/-- A batch of receipts, in the order given. -/
def insertAttempts (operation : String) : List AttemptRow → Transaction Unit
  | [] => pure ()
  | a :: as => do
    let _ ← insertAttempt operation a
    insertAttempts operation as

theorem insertAttempts_eq_ok (operation : String) {as : List AttemptRow}
    (hcheck : ∀ a ∈ as, a.violation = none)
    (hfkey : ∀ a ∈ as, a.deliveryId ∈ db.deliveries.map DeliveryRow.deliveryId) :
    ∃ db', insertAttempts operation as db = .ok ((), db') ∧ db'.deliveries = db.deliveries ∧
      db'.attempts = KeyedTable.insertAll AttemptRow.key as db.attempts := by
  induction as generalizing db with
  | nil => exact ⟨db, rfl, rfl, rfl⟩
  | cons a as ih =>
    obtain ⟨n, db₁, h₁, hd₁, ha₁⟩ := insertAttempt_eq_ok operation
      (hcheck a List.mem_cons_self) (hfkey a List.mem_cons_self)
    obtain ⟨db₂, h₂, hd₂, ha₂⟩ := @ih db₁ (fun b hb => hcheck b (List.mem_cons_of_mem _ hb))
      (fun b hb => hd₁ ▸ hfkey b (List.mem_cons_of_mem _ hb))
    refine ⟨db₂, ?_, hd₂.trans hd₁, ?_⟩
    · rw [insertAttempts, bind_of_eq_ok h₁]
      exact h₂
    · rw [ha₂, ha₁, KeyedTable.insertAll_cons]

/-! ### `UPDATE webhook_deliveries` -/

/-- A row after `UPDATE ... SET set WHERE cond`. -/
def DeliveryRow.updated (cond : DeliveryRow → Bool) (set : DeliveryRow → Assignment)
    (row : DeliveryRow) : DeliveryRow :=
  if cond row then row.assign (set row) else row

section Updated

variable (cond : DeliveryRow → Bool) (set : DeliveryRow → Assignment) (row : DeliveryRow)

@[simp] theorem DeliveryRow.updated_deliveryId :
    (row.updated cond set).deliveryId = row.deliveryId := by
  unfold DeliveryRow.updated
  split <;> rfl

@[simp] theorem DeliveryRow.updated_eventId : (row.updated cond set).eventId = row.eventId := by
  unfold DeliveryRow.updated
  split <;> rfl

end Updated

/-- Update the rows that satisfy `cond`. -/
def updateDeliveries (operation : String) (cond : DeliveryRow → Bool)
    (set : DeliveryRow → Assignment) : Transaction ℕ := fun db =>
  if hcheck : ∀ row ∈ db.deliveries, cond row → (row.assign (set row)).violation = none then
    .ok ((db.deliveries.filter cond).length, { db with
      deliveries := db.deliveries.map (DeliveryRow.updated cond set)
      deliveries_pkey := by
        rw [KeyedTable.map_key_map (DeliveryRow.updated_deliveryId cond set)]
        exact db.deliveries_pkey
      deliveries_event_id_key := by
        rw [KeyedTable.map_key_map (DeliveryRow.updated_eventId cond set)]
        exact db.deliveries_event_id_key
      deliveries_check := by
        intro row hrow
        obtain ⟨row₀, h₀, rfl⟩ := List.mem_map.mp hrow
        unfold DeliveryRow.updated
        split
        · exact hcheck row₀ h₀ ‹_›
        · exact db.deliveries_check row₀ h₀
      attempts_fkey := by
        intro a ha
        rw [KeyedTable.map_key_map (DeliveryRow.updated_deliveryId cond set)]
        exact db.attempts_fkey a ha })
  else
    .error (.error (.database operation
      (((db.deliveries.filter cond).findSome? fun row => (row.assign (set row)).violation).getD
        "")))

theorem updateDeliveries_eq_ok (operation : String) {cond : DeliveryRow → Bool}
    {set : DeliveryRow → Assignment}
    (hcheck : ∀ row ∈ db.deliveries, cond row → (row.assign (set row)).violation = none) :
    ∃ db', updateDeliveries operation cond set db
        = .ok ((db.deliveries.filter cond).length, db') ∧
      db'.deliveries = db.deliveries.map (DeliveryRow.updated cond set) ∧
      db'.attempts = db.attempts := by
  rw [updateDeliveries, dif_pos hcheck]
  exact ⟨_, rfl, rfl, rfl⟩

/-- An update that touches no row succeeds and changes nothing. -/
theorem updateDeliveries_of_no_row {operation : String} {cond : DeliveryRow → Bool}
    {set : DeliveryRow → Assignment} (h : ∀ row ∈ db.deliveries, cond row = false) :
    updateDeliveries operation cond set db = .ok (0, db) := by
  have hcheck : ∀ row ∈ db.deliveries, cond row → (row.assign (set row)).violation = none :=
    fun row hrow hc => absurd hc (by simp [h row hrow])
  obtain ⟨db', hok, hd, ha⟩ := updateDeliveries_eq_ok operation hcheck
  have hfilter : db.deliveries.filter cond = [] := by
    rw [List.filter_eq_nil_iff]
    exact fun row hrow => by simp [h row hrow]
  have hmap : db.deliveries.map (DeliveryRow.updated cond set) = db.deliveries := by
    conv_rhs => rw [← List.map_id db.deliveries]
    exact List.map_congr_left fun row hrow => by simp [DeliveryRow.updated, h row hrow]
  rw [hok, hfilter, List.length_nil, Db.ext (hd.trans hmap) ha]

end OutboundWebhook
