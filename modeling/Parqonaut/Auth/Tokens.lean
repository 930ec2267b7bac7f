import Parqonaut.Effects.Interleaving
import Parqonaut.Rust.Str
import Parqonaut.Sql.Table

/-!
# Bearer tokens

The `auth_tokens` table of the SQLite store and the operations of `auth_store.rs` on it, each one
step. The hash of secrets, new row ids and generated secrets are parameters. Timestamps are RFC
3339 texts.
-/

namespace Parqonaut.Auth

open Rust Sql List

inductive AuthRole where
  | reader
  | operator
  | admin

/-- `AuthRole::from_str`. Only ASCII letters have the letters of these words as lower case. -/
def AuthRole.parse (text : String) : Option AuthRole :=
  match Str.toAsciiLowercase (Str.trim text) with
  | "reader" => some .reader
  | "operator" => some .operator
  | "admin" => some .admin
  | _ => none

/-- A row of `auth_tokens`. -/
structure AuthTokenRow where
  tokenId : String
  tokenHash : String
  label : String
  role : AuthRole
  createdAt : String
  disabledAt : Option String
  note : Option String
  tokenPrefix : Option String
  lastUsedAt : Option String
  replacedByTokenId : Option String

/-- Token table: `token_id` is its primary key, and `token_hash` is unique. -/
structure TokenTable extends Table AuthTokenRow.tokenId where
  uniqueHashes : (rows.map AuthTokenRow.tokenHash).Nodup

/-- The `SET` part of an update of tokens. No statement assigns the hash either. -/
structure TokenAssignment extends Assignment AuthTokenRow.tokenId where
  keepsHash : ∀ row, (set row).tokenHash = row.tokenHash

/-- Failures of the token operations. -/
inductive TokenError where
  | sql
  | authToken (message : String)
  | authTokenNotFound (tokenId : String)

/-- Authenticated caller after bearer validation. -/
structure AuthPrincipal where
  tokenId : String
  label : String
  role : AuthRole

variable (table : TokenTable)

namespace TokenTable

/-! ## Statements -/

def empty : TokenTable := ⟨.empty, nodup_nil⟩

/-- `INSERT`, which violates a constraint if the id or the hash is already there. -/
def insert (row : AuthTokenRow) : Option TokenTable :=
  if taken : row.tokenId ∈ table.rows.map (·.tokenId) ∨
      row.tokenHash ∈ table.rows.map (·.tokenHash) then none
  else some {
    rows := table.rows ++ [row]
    distinct := by
      rw [map_append, map_singleton, ← concat_eq_append]
      exact table.distinct.concat fun mem => taken (.inl mem)
    uniqueHashes := by
      rw [map_append, map_singleton, ← concat_eq_append]
      exact table.uniqueHashes.concat fun mem => taken (.inr mem) }

/-- `UPDATE … SET … WHERE guard`. -/
def update (guard : AuthTokenRow → Bool) (assignment : TokenAssignment) : TokenTable where
  toTable := table.toTable.update guard assignment.toAssignment
  uniqueHashes := by
    have hashes : (table.toTable.update guard assignment.toAssignment).rows.map (·.tokenHash) =
        table.rows.map (·.tokenHash) := by
      rw [Table.update, map_map]
      apply map_congr_left
      intro row _
      rw [Function.comp_apply]
      split
      · exact assignment.keepsHash row
      · rfl
    rw [hashes]
    exact table.uniqueHashes

/-- `DELETE … WHERE guard`. -/
def delete (guard : AuthTokenRow → Bool) : TokenTable where
  rows := table.rows.filter (!guard ·)
  distinct := table.distinct.sublist (filter_sublist.map _)
  uniqueHashes := table.uniqueHashes.sublist (filter_sublist.map _)

/-! ## Operations -/

variable (hashBearerToken : String → String)

/-- Row of a token that was just made. -/
def newRow (tokenId secret label : String) (role : AuthRole) (now : String)
    (note tokenPrefix : Option String) : AuthTokenRow where
  tokenId := tokenId
  tokenHash := hashBearerToken secret
  label := label
  role := role
  createdAt := now
  disabledAt := none
  note := note
  tokenPrefix := tokenPrefix
  lastUsedAt := none
  replacedByTokenId := none

/-- First characters of a generated secret. -/
def displayPrefix (secret : String) : String := String.ofList (secret.toList.take 12)

/-- Creates a new token, whose secret is returned once. -/
def createAuthToken (table : TokenTable) (label : String) (role : AuthRole) (note : Option String)
    (tokenId secret now : String) : Except TokenError (String × String) × TokenTable :=
  match table.insert (newRow hashBearerToken tokenId secret label role now note
    (some (displayPrefix secret))) with
  | some next => (.ok (tokenId, secret), next)
  | none => (.error .sql, table)

def used (now : String) : TokenAssignment where
  set row := { row with lastUsedAt := some now }
  keepsKey _ := rfl
  keepsHash _ := rfl

/-- Validates a bearer secret and returns the principal, or nothing if invalid or disabled. -/
def verifyBearerToken (table : TokenTable) (secret now : String) :
    Option AuthPrincipal × TokenTable :=
  match table.rows.find? fun row => row.tokenHash = hashBearerToken secret &&
      row.disabledAt.isNone with
  | none => (none, table)
  | some row => (some ⟨row.tokenId, row.label, row.role⟩,
      table.update (fun other => other.tokenId = row.tokenId && other.disabledAt.isNone) (used now))

def replaced (now newId : String) : TokenAssignment where
  set row := { row with disabledAt := some now, replacedByTokenId := some newId }
  keepsKey _ := rfl
  keepsHash _ := rfl

/-- Atomically creates a new token and disables the old row. -/
def rotateAuthToken (table : TokenTable) (oldId newId secret now : String) :
    Except TokenError (String × String) × TokenTable :=
  match table.rows.find? fun row => row.tokenId = oldId && row.disabledAt.isNone with
  | none => (.error (.authTokenNotFound oldId), table)
  | some old =>
    match table.insert (newRow hashBearerToken newId secret old.label old.role now old.note
      (some (displayPrefix secret))) with
    | none => (.error .sql, table)
    | some next =>
      (.ok (newId, secret), next.update (fun row => row.tokenId = oldId) (replaced now newId))

def disabled (now : String) : TokenAssignment where
  set row := { row with disabledAt := some now }
  keepsKey _ := rfl
  keepsHash _ := rfl

/-- Disables a token. It is an error if the id does not exist. -/
def disableAuthToken (table : TokenTable) (tokenId now : String) :
    Except TokenError Unit × TokenTable :=
  let guard := fun row : AuthTokenRow => decide (row.tokenId = tokenId)
  (if table.affected guard = 0 then .error (.authTokenNotFound tokenId) else .ok (),
    table.update guard (disabled now))

def isBootstrap (row : AuthTokenRow) : Bool := row.label = "bootstrap"

/-- Replaces the bootstrap token row. -/
def upsertBootstrapToken (table : TokenTable) (secret : String) (role : AuthRole)
    (tokenId now : String) : Except TokenError Unit × TokenTable :=
  match (table.delete isBootstrap).insert
    (newRow hashBearerToken tokenId secret "bootstrap" role now none none) with
  | some next => (.ok (), next)
  | none => (.error .sql, table)

end TokenTable

/-- Environment variables that the bootstrap reads. -/
structure BootstrapEnv where
  prqntBootstrapAdminToken : Option String
  paracleteBootstrapToken : Option String
  paracleteBootstrapRole : Option String
  prqntBootstrapRole : Option String

namespace BootstrapEnv

/-- Secret that the environment sets. An empty one counts as none. -/
def secret (env : BootstrapEnv) : Option String :=
  (env.prqntBootstrapAdminToken.or env.paracleteBootstrapToken).filter (· ≠ "")

def role (env : BootstrapEnv) : Except TokenError AuthRole :=
  match env.paracleteBootstrapRole.or env.prqntBootstrapRole with
  | none => .ok .admin
  | some text =>
    match AuthRole.parse text with
    | some role => .ok role
    | none => .error (.authToken ("unknown auth role `" ++ text ++ "`"))

end BootstrapEnv

/-- Inserts the bootstrap token that the environment sets, if any. -/
def TokenTable.bootstrapAuthFromEnv (hashBearerToken : String → String) (env : BootstrapEnv)
    (table : TokenTable) (tokenId now : String) : Except TokenError Unit × TokenTable :=
  match env.secret with
  | none => (.ok (), table)
  | some secret =>
    match env.role with
    | .error error => (.error error, table)
    | .ok role => table.upsertBootstrapToken hashBearerToken secret role tokenId now

/-! ## Histories -/

/-- An operation with the values it draws. `bootstrap` happens at each restart. -/
inductive TokenOperation where
  | create (label : String) (role : AuthRole) (note : Option String) (tokenId secret now : String)
  | rotate (oldId newId secret now : String)
  | disable (tokenId now : String)
  | bootstrap (tokenId now : String)
  | verify (secret now : String)

namespace TokenOperation

variable (hashBearerToken : String → String) (env : BootstrapEnv)

/-- Table after an operation. -/
def execute (table : TokenTable) : TokenOperation → TokenTable
  | create label role note tokenId secret now =>
    (table.createAuthToken hashBearerToken label role note tokenId secret now).2
  | rotate oldId newId secret now =>
    (table.rotateAuthToken hashBearerToken oldId newId secret now).2
  | disable tokenId now => (table.disableAuthToken tokenId now).2
  | bootstrap tokenId now => (table.bootstrapAuthFromEnv hashBearerToken env tokenId now).2
  | verify secret now => (table.verifyBearerToken hashBearerToken secret now).2

/-- Table after a history of operations on a new store. -/
def executeAll (history : List TokenOperation) : TokenTable :=
  history.foldl (execute hashBearerToken env) .empty

/-- Secret that an operation generates. -/
def generated : TokenOperation → Option String
  | create _ _ _ _ secret _ => some secret
  | rotate _ _ secret _ => some secret
  | disable .. | bootstrap .. | verify .. => none

end TokenOperation

/-!
# Revoked tokens

The only operation that can bring a revoked secret back is the bootstrap of a restart, which
deletes the bootstrap rows, disabled ones included, and inserts the secret of the environment.
-/

open TokenOperation TokenTable

section

variable {table next : TokenTable} {row : AuthTokenRow}

lemma TokenTable.insert_eq_some : table.insert row = some next ↔
    (∀ other ∈ table.rows, other.tokenId ≠ row.tokenId ∧ other.tokenHash ≠ row.tokenHash) ∧
      next.rows = table.rows ++ [row] := by
  rw [insert]
  split
  · rename_i taken
    simp only [mem_map] at taken
    constructor
    · intro never
      cases never
    · rintro ⟨free, -⟩
      rcases taken with ⟨other, mem, same⟩ | ⟨other, mem, same⟩
      · exact absurd same (free other mem).1
      · exact absurd same (free other mem).2
  · rename_i free
    simp only [mem_map, not_or, not_exists, not_and] at free
    constructor
    · rintro ⟨⟩
      exact ⟨fun other mem => ⟨free.1 other mem, free.2 other mem⟩, rfl⟩
    · rintro ⟨-, rows⟩
      obtain ⟨⟨_, _⟩, _⟩ := next
      cases rows
      rfl

lemma TokenTable.exists_insert (free : ∀ other ∈ table.rows,
    other.tokenId ≠ row.tokenId ∧ other.tokenHash ≠ row.tokenHash) :
    ∃ next, table.insert row = some next := by
  rw [insert, dif_neg]
  · exact ⟨_, rfl⟩
  · simp only [mem_map, not_or, not_exists, not_and]
    exact ⟨fun other mem => (free other mem).1, fun other mem => (free other mem).2⟩

lemma TokenTable.eq_of_hash {other : AuthTokenRow} (mem : row ∈ table.rows)
    (also : other ∈ table.rows) (same : row.tokenHash = other.tokenHash) : row = other :=
  inj_on_of_nodup_map table.uniqueHashes mem also same

lemma TokenTable.mem_delete {guard : AuthTokenRow → Bool} :
    row ∈ (table.delete guard).rows ↔ row ∈ table.rows ∧ guard row = false := by
  rw [delete, mem_filter, Bool.not_eq_true']

end

variable {hashBearerToken : String → String} {env : BootstrapEnv} {table next : TokenTable}
  {row : AuthTokenRow} {op : TokenOperation} {secret : String}

/-! ## One operation -/

/-- The bootstrap can insert the secret of the environment: the role is valid, and no token that it
keeps has the new id. -/
def CanInsert (env : BootstrapEnv) (table : TokenTable) (tokenId : String) : Prop :=
  (∃ role, env.role = .ok role) ∧
    ∀ row ∈ table.rows, row.label ≠ "bootstrap" → row.tokenId ≠ tokenId

/-- Where a row of the table after an operation comes from. -/
inductive Arises (hashBearerToken : String → String) (env : BootstrapEnv) (table : TokenTable)
    (op : TokenOperation) (row : AuthTokenRow) : Prop where
  | kept (old : AuthTokenRow) (mem : old ∈ table.rows) (hash : row.tokenHash = old.tokenHash)
      (label : row.label = old.label) (enabled : row.disabledAt = none → old.disabledAt = none)
  | generated (secret : String) (draws : op.generated = some secret)
      (hash : row.tokenHash = hashBearerToken secret)
  | bootstrapped (secret tokenId now : String) (restarts : op = .bootstrap tokenId now)
      (isSet : env.secret = some secret) (hash : row.tokenHash = hashBearerToken secret)
      (label : row.label = "bootstrap") (inserts : CanInsert env table tokenId)

/-- An update that enables nothing keeps every row. -/
lemma arises_of_update {guard : AuthTokenRow → Bool} {assignment : TokenAssignment}
    (label : ∀ row, (assignment.set row).label = row.label)
    (enabled : ∀ row, (assignment.set row).disabledAt = none → row.disabledAt = none)
    (mem : row ∈ (table.update guard assignment).rows) :
    ∃ old ∈ table.rows, row.tokenHash = old.tokenHash ∧ row.label = old.label ∧
      (row.disabledAt = none → old.disabledAt = none) := by
  obtain ⟨old, present, rfl⟩ := Table.mem_update.mp mem
  refine ⟨old, present, ?_⟩
  split
  · exact ⟨assignment.keepsHash old, label old, enabled old⟩
  · exact ⟨rfl, rfl, id⟩

lemma execute_arises (mem : row ∈ (op.execute hashBearerToken env table).rows) :
    Arises hashBearerToken env table op row := by
  cases op with
  | create _ _ _ _ secret =>
    rw [execute, createAuthToken] at mem
    split at mem
    · rename_i inserts
      rw [(insert_eq_some.mp inserts).2, mem_append, mem_singleton] at mem
      rcases mem with old | rfl
      · exact .kept row old rfl rfl id
      · exact .generated secret rfl rfl
    · exact .kept row mem rfl rfl id
  | rotate _ _ secret now =>
    rw [execute, rotateAuthToken] at mem
    split at mem
    · exact .kept row mem rfl rfl id
    · split at mem
      · exact .kept row mem rfl rfl id
      · rename_i inserts
        obtain ⟨old, present, hash, label, enabled⟩ :=
          arises_of_update (fun _ => rfl) (fun _ never => (Option.some_ne_none now never).elim) mem
        rw [(insert_eq_some.mp inserts).2, mem_append, mem_singleton] at present
        rcases present with there | rfl
        · exact .kept old there hash label enabled
        · exact .generated secret rfl hash
  | disable _ now =>
    obtain ⟨old, present, hash, label, enabled⟩ :=
      arises_of_update (fun _ => rfl) (fun _ never => (Option.some_ne_none now never).elim) mem
    exact .kept old present hash label enabled
  | bootstrap tokenId now =>
    rw [execute, bootstrapAuthFromEnv] at mem
    split at mem
    · exact .kept row mem rfl rfl id
    · rename_i secret isSet
      split at mem
      · exact .kept row mem rfl rfl id
      · rename_i role valid
        rw [upsertBootstrapToken] at mem
        split at mem
        · rename_i inserts
          obtain ⟨free, rows⟩ := insert_eq_some.mp inserts
          rw [rows, mem_append, mem_singleton] at mem
          rcases mem with old | rfl
          · exact .kept row (mem_delete.mp old).1 rfl rfl id
          · refine .bootstrapped secret tokenId now rfl isSet rfl rfl ⟨⟨role, valid⟩, ?_⟩
            intro other present differs
            exact (free other (mem_delete.mpr ⟨present, decide_eq_false differs⟩)).1
        · exact .kept row mem rfl rfl id
  | verify =>
    rw [execute, verifyBearerToken] at mem
    split at mem
    · exact .kept row mem rfl rfl id
    · obtain ⟨old, present, hash, label, enabled⟩ :=
        arises_of_update (fun _ => rfl) (fun _ unused => unused) mem
      exact .kept old present hash label enabled

/-! ## Revocation -/

/-- The operation disables or rotates the token with the given secret. -/
def Revokes (hashBearerToken : String → String) (table : TokenTable) (op : TokenOperation)
    (secret : String) : Prop :=
  ∃ row ∈ table.rows, row.tokenHash = hashBearerToken secret ∧
    match op with
    | .disable tokenId _ => row.tokenId = tokenId
    | .rotate oldId newId generated now => row.tokenId = oldId ∧
        ((table.rotateAuthToken hashBearerToken oldId newId generated now).1.toOption).isSome = true
    | .create .. | .bootstrap .. | .verify .. => False

/-- No token with the secret is enabled. -/
def Dead (hashBearerToken : String → String) (table : TokenTable) (secret : String) : Prop :=
  ∀ row ∈ table.rows, row.tokenHash = hashBearerToken secret → row.disabledAt ≠ none

lemma verifyBearerToken_eq_none {now : String} :
    (table.verifyBearerToken hashBearerToken secret now).1 = none ↔
      Dead hashBearerToken table secret := by
  rw [verifyBearerToken]
  split
  · rename_i none
    rw [List.find?_eq_none] at none
    constructor
    · intro _ row mem hash enabled
      exact none row mem (by simp [hash, enabled])
    · exact fun _ => rfl
  · rename_i row found
    have mem := List.mem_of_find?_eq_some found
    have enabled := List.find?_some found
    simp only [Bool.and_eq_true, decide_eq_true_eq, Option.isNone_iff_eq_none] at enabled
    constructor
    · intro never
      cases never
    · exact fun dead => absurd enabled.2 (dead row mem enabled.1)

/-- Hashes are unique, so a revoked secret has no other row. -/
lemma Revokes.dead (revokes : Revokes hashBearerToken table op secret) :
    Dead hashBearerToken (op.execute hashBearerToken env table) secret := by
  obtain ⟨row, mem, hash, names⟩ := revokes
  cases op with
  | create | bootstrap | verify => exact names.elim
  | disable =>
    intro _ present laterHash enabled
    obtain ⟨old, there, rfl⟩ := Table.mem_update.mp present
    have same : old = row := by
      refine eq_of_hash there mem (Eq.trans ?_ (laterHash.trans hash.symm))
      split <;> rfl
    rw [same, if_pos (decide_eq_true names)] at enabled
    cases enabled
  | rotate =>
    obtain ⟨isOld, succeeds⟩ := names
    intro _ present laterHash enabled
    rw [execute] at present
    rw [rotateAuthToken] at present succeeds
    split at present
    · simp_all [Except.toOption]
    · split at present
      · simp_all [Except.toOption]
      · rename_i inserts
        obtain ⟨free, rows⟩ := insert_eq_some.mp inserts
        obtain ⟨old, there, rfl⟩ := Table.mem_update.mp present
        have oldHash : old.tokenHash = row.tokenHash := by
          refine Eq.trans ?_ (laterHash.trans hash.symm)
          split <;> rfl
        rw [rows, mem_append, mem_singleton] at there
        rcases there with there | rfl
        · rw [eq_of_hash there mem oldHash, if_pos (decide_eq_true isOld)] at enabled
          cases enabled
        · exact (free row mem).2 oldHash.symm

/-! ## Histories -/

/-- Generated secrets are different from each other and from the one of the environment. -/
def FreshSecrets (env : BootstrapEnv) (history : List TokenOperation) : Prop :=
  (env.secret.toList ++ history.filterMap (·.generated)).Nodup

instance : DecidablePred (FreshSecrets env) := fun _ => inferInstanceAs (Decidable (List.Nodup _))

/-- In every state after a token was disabled or rotated, its secret is not accepted. -/
def StaysRevoked (hashBearerToken : String → String) (env : BootstrapEnv)
    (history : List TokenOperation) : Prop :=
  ∀ before op middle rest, history = before ++ op :: (middle ++ rest) →
    ∀ secret, Revokes hashBearerToken (executeAll hashBearerToken env before) op secret →
      ∀ now, ((executeAll hashBearerToken env
        (before ++ op :: middle)).verifyBearerToken hashBearerToken secret now).1 = none

/-- No restart inserts the secret of the environment after its token was disabled or rotated. -/
def NeverReissued (hashBearerToken : String → String) (env : BootstrapEnv)
    (history : List TokenOperation) : Prop :=
  ∀ before op middle tokenId now rest,
    history = before ++ op :: (middle ++ .bootstrap tokenId now :: rest) →
    ∀ secret, env.secret = some secret →
      Revokes hashBearerToken (executeAll hashBearerToken env before) op secret →
      ¬ CanInsert env (executeAll hashBearerToken env (before ++ op :: middle)) tokenId

section

variable {history : List TokenOperation}

lemma executeAll_concat : executeAll hashBearerToken env (history ++ [op]) =
    op.execute hashBearerToken env (executeAll hashBearerToken env history) := by
  rw [executeAll, foldl_concat]
  rfl

/-- Every stored hash is that of the secret of the environment or of a generated one. -/
lemma hash_known (mem : row ∈ (executeAll hashBearerToken env history).rows) :
    ∃ secret ∈ env.secret.toList ++ history.filterMap (·.generated),
      row.tokenHash = hashBearerToken secret := by
  induction history using List.reverseRecOn generalizing row with
  | nil => cases mem
  | append_singleton _ op ih =>
    rw [executeAll_concat] at mem
    rw [filterMap_append, ← append_assoc]
    cases execute_arises mem with
    | kept _ present hash =>
      obtain ⟨secret, known, same⟩ := ih present
      exact ⟨secret, mem_append_left _ known, hash.trans same⟩
    | generated secret draws hash =>
      exact ⟨secret, mem_append_right _ (mem_filterMap.mpr
        ⟨op, mem_singleton_self op, draws⟩), hash⟩
    | bootstrapped secret _ _ _ isSet hash =>
      exact ⟨secret, mem_append_left _ (mem_append_left _ (by simp [isSet])), hash⟩

/-- Only bootstrap rows have the secret of the environment. -/
lemma label_of_hash (injective : Function.Injective hashBearerToken)
    (fresh : FreshSecrets env history) (isSet : env.secret = some secret)
    (mem : row ∈ (executeAll hashBearerToken env history).rows)
    (hash : row.tokenHash = hashBearerToken secret) : row.label = "bootstrap" := by
  induction history using List.reverseRecOn generalizing row with
  | nil => cases mem
  | append_singleton _ op ih =>
    rw [FreshSecrets, filterMap_append, ← append_assoc] at fresh
    rw [executeAll_concat] at mem
    cases execute_arises mem with
    | kept _ present sameHash label =>
      rw [label]
      exact ih (nodup_append.mp fresh).1 present (sameHash.symm.trans hash)
    | generated drawn draws sameHash =>
      obtain rfl := injective (sameHash.symm.trans hash)
      exact absurd rfl ((nodup_append.mp fresh).2.2 drawn (mem_append_left _
        (by simp [isSet])) drawn (mem_filterMap.mpr ⟨op, mem_singleton_self op, draws⟩))
    | bootstrapped _ _ _ _ _ _ label => exact label

/-- A successful bootstrap enables the secret of the environment. -/
lemma not_dead_of_bootstrap (injective : Function.Injective hashBearerToken)
    (fresh : FreshSecrets env history) (isSet : env.secret = some secret) {tokenId : String}
    (now : String) (inserts : CanInsert env (executeAll hashBearerToken env history) tokenId) :
    ¬ Dead hashBearerToken (executeAll hashBearerToken env
      (history ++ [.bootstrap tokenId now])) secret := by
  intro dead
  obtain ⟨⟨role, valid⟩, freeId⟩ := inserts
  obtain ⟨next, inserted⟩ : ∃ next, ((executeAll hashBearerToken env history).delete
      isBootstrap).insert (newRow hashBearerToken tokenId secret "bootstrap"
        role now none none) = some next := by
    apply exists_insert
    intro other mem
    obtain ⟨present, notBootstrap⟩ := mem_delete.mp mem
    have differs : other.label ≠ "bootstrap" := of_decide_eq_false notBootstrap
    exact ⟨freeId other present differs,
      fun hash => differs (label_of_hash injective fresh isSet present hash)⟩
  rw [executeAll_concat, execute, bootstrapAuthFromEnv, isSet] at dead
  dsimp only at dead
  rw [valid] at dead
  dsimp only at dead
  rw [upsertBootstrapToken, inserted] at dead
  refine dead (newRow hashBearerToken tokenId secret "bootstrap" role now none none) ?_ rfl rfl
  rw [(insert_eq_some.mp inserted).2, mem_append]
  exact .inr (mem_singleton_self _)

variable {before : List TokenOperation}

/-- A generated secret is not one that was known before. -/
lemma FreshSecrets.ne {after : List TokenOperation} {drawn : String}
    (fresh : FreshSecrets env (before ++ after))
    (known : secret ∈ env.secret.toList ++ before.filterMap (·.generated))
    {later : TokenOperation} (mem : later ∈ after) (draws : later.generated = some drawn) :
    secret ≠ drawn := by
  rw [FreshSecrets, filterMap_append, ← append_assoc] at fresh
  exact (nodup_append.mp fresh).2.2 secret known drawn (mem_filterMap.mpr ⟨later, mem, draws⟩)

/-- Nothing but a bootstrap with the secret of the environment brings a revoked secret back. -/
lemma dead_along (injective : Function.Injective hashBearerToken)
    (fresh : FreshSecrets env history) (never : NeverReissued hashBearerToken env history)
    {middle rest : List TokenOperation} (split : history = before ++ op :: (middle ++ rest))
    (revokes : Revokes hashBearerToken (executeAll hashBearerToken env before) op secret) :
    Dead hashBearerToken (executeAll hashBearerToken env (before ++ op :: middle))
      secret := by
  -- The secret was known when it was revoked, so nothing generates it later.
  obtain ⟨_, present, hash, -⟩ := id revokes
  obtain ⟨_, isKnown, knownHash⟩ := hash_known present
  obtain rfl := injective (knownHash.symm.trans hash)
  induction middle using List.reverseRecOn generalizing rest with
  | nil =>
    rw [executeAll_concat]
    exact revokes.dead
  | append_singleton middle last ih =>
    have dead := @ih (last :: rest) (by simp [split])
    rw [show before ++ op :: (middle ++ [last]) = before ++ op :: middle ++ [last] by simp,
      executeAll_concat]
    intro _ mem laterHash enabled
    cases execute_arises mem with
    | kept old there oldHash _ wasEnabled =>
      exact dead old there (oldHash.symm.trans laterHash) (wasEnabled enabled)
    | generated _ draws drawnHash =>
      obtain rfl := injective (drawnHash.symm.trans laterHash)
      rw [split] at fresh
      exact fresh.ne isKnown (by simp) draws rfl
    | bootstrapped _ tokenId now restarts isSet bootHash _ inserts =>
      obtain rfl := injective (bootHash.symm.trans laterHash)
      refine never before op middle tokenId now rest ?_ _ isSet revokes inserts
      rw [split, restarts]
      simp

end

/-- With an injective hash and fresh secrets, revoked tokens stay revoked exactly if no restart
inserts the bootstrap secret after its token was revoked. -/
theorem staysRevoked_iff {history : List TokenOperation}
    (injective : Function.Injective hashBearerToken) (fresh : FreshSecrets env history) :
    StaysRevoked hashBearerToken env history ↔ NeverReissued hashBearerToken env history := by
  constructor
  · intro stays before op middle tokenId now rest split secret isSet revokes inserts
    have dead := verifyBearerToken_eq_none.mp (stays before op (middle ++ [.bootstrap tokenId now])
      rest (by simp [split]) secret revokes now)
    have prefixFresh : FreshSecrets env (before ++ op :: middle) := by
      rw [FreshSecrets, split, show before ++ op :: (middle ++ .bootstrap tokenId now :: rest) =
        before ++ op :: middle ++ .bootstrap tokenId now :: rest by simp, filterMap_append,
        ← append_assoc] at fresh
      exact (nodup_append.mp fresh).1
    refine not_dead_of_bootstrap injective prefixFresh isSet now inserts ?_
    simpa using dead
  · intro never _ _ _ _ split _ revokes _
    exact verifyBearerToken_eq_none.mpr (dead_along injective fresh never split revokes)

namespace Reference

/-- An environment that sets a bootstrap secret. -/
def bootEnv : BootstrapEnv := ⟨some "root", none, none, none⟩

/-- A start of the server, and a token that is made and disabled. -/
def plainHistory : List TokenOperation :=
  [.bootstrap "t0" "1", .create "ci" .operator none "t1" "s1" "2", .disable "t1" "3"]

theorem generated_token_stays_revoked : StaysRevoked id bootEnv plainHistory := by
  apply (staysRevoked_iff Function.injective_id (by decide +kernel)).mpr
  intro before _ _ tokenId now _ split _ _ _
  have later : .bootstrap tokenId now ∈ plainHistory.tail := by
    rw [split]
    cases before <;> simp
  simp [plainHistory] at later

/-- The bootstrap token is disabled, and the server restarts with the same environment. -/
def restartHistory : List TokenOperation :=
  [.bootstrap "t0" "1", .disable "t0" "2", .bootstrap "t1" "3"]

theorem bootstrap_revives_disabled_token :
    Function.Injective (id : String → String) ∧ FreshSecrets bootEnv restartHistory ∧
      ¬ StaysRevoked id bootEnv restartHistory := by
  refine ⟨Function.injective_id, by decide +kernel, fun stays => ?_⟩
  have revoked := stays [.bootstrap "t0" "1"] (.disable "t0" "2") [.bootstrap "t1" "3"] [] rfl "root"
    ⟨_, mem_singleton_self _, rfl, rfl⟩ "4"
  exact absurd revoked (by decide +kernel)

end Reference

/-!
# Concurrent rotations

`rotate_auth_token` for Postgres under `READ COMMITTED`: every statement sees what is committed
when it starts, and an `UPDATE` waits for the transaction that has changed the row.
-/

open Effects Machine System

/-- Last statement that a call has run, or whether it has returned a new token. -/
inductive RotationPhase where
  | begun | selected | inserted | updated
  | ended (ok : Bool)
  deriving DecidableEq

structure RotationCall (Id : Type) where
  newId : Id
  phase : RotationPhase

/-- What is committed of the token and its successors, and whether an open transaction has changed
its row. -/
structure RotatedToken (Id : Type) where
  enabled : Bool
  replacedBy : Option Id
  successors : List Id
  locked : Bool

variable {Id Proc : Type} [DecidableEq Proc]

/-- Next statement of a call. -/
def pgRotateAuthToken : Machine Unit (RotationCall Id) (RotatedToken Id) where
  step _ call token :=
    match call.phase with
    | .begun =>
      some ({ call with phase := if token.enabled then .selected else .ended false }, token)
    | .selected => some ({ call with phase := .inserted }, token)
    | .inserted =>
      -- the row is found again by its id alone once the lock is free
      if token.locked then none
      else some ({ call with phase := .updated }, { token with locked := true })
    | .updated => some ({ call with phase := .ended true },
        ⟨false, some call.newId, token.successors ++ [call.newId], false⟩)
    | .ended _ => none

/-- Calls that start on an enabled token. -/
def rotations (newId : Proc → Id) : System Proc (RotationCall Id) (RotatedToken Id) :=
  ⟨fun call => ⟨newId call, .begun⟩, ⟨true, none, [], false⟩⟩

/-- At most one call has returned a token, and the token names its only successor. -/
def Linear (system : System Proc (RotationCall Id) (RotatedToken Id)) : Prop :=
  (∀ first second, (system.locals first).phase = .ended true →
    (system.locals second).phase = .ended true → first = second) ∧
  ∀ id ∈ system.shared.successors, system.shared.replacedBy = some id

/-- One call commits at most once: before it does, the token has no successor. -/
lemma rotation_linear [Subsingleton Proc] {newId : Proc → Id} {schedule : List (Proc × Unit)}
    {final : System Proc (RotationCall Id) (RotatedToken Id)}
    (runs : pgRotateAuthToken.run schedule (rotations newId) = some final) : Linear final := by
  refine ⟨fun _ _ _ _ => Subsingleton.elim .., (run_invariant (fun system =>
    (∀ call, (system.locals call).phase = .ended true ∨ system.shared.successors = []) ∧
      ∀ id ∈ system.shared.successors, system.shared.replacedBy = some id)
    ?_ ⟨fun _ => .inr rfl, by simp [rotations]⟩ (meets_true schedule _) runs).2⟩
  rintro call _ _ _ ⟨early, _⟩ _ acts
  obtain ⟨moved, steps, rfl⟩ := act_eq_some.mp acts
  suffices after : (moved.1.phase = .ended true ∨ moved.2.successors = []) ∧
      ∀ id ∈ moved.2.successors, moved.2.replacedBy = some id by
    refine ⟨fun other => ?_, after.2⟩
    rw [Subsingleton.elim other call, move_self]
    exact after.1
  have before := early call
  simp only [pgRotateAuthToken] at steps
  split at steps <;> grind

/-- Rotation is linear in every schedule exactly if there is at most one call. -/
theorem rotation_linear_iff (newId : Proc → Id) :
    (∀ schedule final, pgRotateAuthToken.run schedule (rotations newId) = some final →
      Linear final) ↔ Subsingleton Proc := by
  constructor
  · intro linear
    by_contra several
    obtain ⟨first, second, differ⟩ := not_subsingleton_iff_nontrivial.mp several
    -- both calls find the token enabled before one of them commits
    have final := linear ([first, second, first, second, first, first, second, second].map (·, ()))
    simp [pgRotateAuthToken, rotations, Machine.run, act, move, differ, differ.symm, Linear,
      Function.update_apply] at final
    exact differ (final.1 first second (by simp [differ]) (by simp))
  · exact fun one _ _ runs => rotation_linear runs

/-- Two calls that both select before either commits: two tokens, and the token names one. -/
theorem rotation_forks : ∃ final,
    pgRotateAuthToken.run ([false, true, false, true, false, false, true, true].map (·, ()))
      (rotations fun call => if call then "b" else "a") = some final ∧
    (∀ call, (final.locals call).phase = .ended true) ∧
      final.shared.successors = ["a", "b"] ∧ final.shared.replacedBy = some "b" :=
  ⟨_, rfl, by decide, rfl, rfl⟩

end Parqonaut.Auth
