import ArdopMeshChat.Python.Builtins
import Mathlib.Data.List.Sort

/-!
# The chat log

`ChatStore` keeps one SQLite table, `chat_messages`, whose `UNIQUE(origin_id,
seqno)` constraint makes `INSERT OR IGNORE` keep the first row of each key.
The table is its rows in `rowid` order.  A query keeps the rows its `WHERE`
clause selects, sorts them with `ORDER BY ts ASC`, rows of equal `ts` in
`rowid` order, and cuts the result at `LIMIT`.  Timestamps are `REAL`s of which
only the order is read, so they range over any linear order.

`add_message` binds its arguments before SQLite sees the row.  A `seqno`
outside SQLite's 64-bit `INTEGER` makes the binding raise `OverflowError`, and
nothing is stored.  A NaN `ts` binds as NULL, the row breaks `ts REAL NOT
NULL`, and `INSERT OR IGNORE` skips it as it skips a stored key.  So over any
calls the table holds, for each key, the row of the first call with that key
whose `ts` is a number (`ChatStore.addAll_empty`).  The queries bind their
`limit` and `since_ts` the same way; they are modelled for a `limit` SQLite can
bind and a `since_ts` that is a number.

The sort is stable, so it commutes with `WHERE`: every `get_messages_since`
reads one order of the channel's rows, cut after `since_ts` and at the limit.
Paging through it from the last row's `ts` skips the rows that tie with it.
-/

namespace ArdopMeshChat

/-- A row of `chat_messages` as the queries return it, without its `id`. -/
structure ChatRow (τ : Type) where
  originId : Bytes
  seqno : Int
  channel : String
  nick : String
  text : String
  ts : τ
  deriving DecidableEq, Repr

/-- The table `chat_messages`, its rows in `rowid` order. -/
structure ChatStore (τ : Type) where
  rows : List (ChatRow τ)
  deriving DecidableEq, Repr

/-- Whether a row carries the key `(origin_id, seqno)`. -/
def ChatRow.hasKey {τ : Type} (originId : Bytes) (seqno : Int) (row : ChatRow τ) : Bool :=
  row.originId == originId && row.seqno == seqno

/-- The key `(origin_id, seqno)` of a row. -/
def ChatRow.key {τ : Type} (row : ChatRow τ) : Bytes × Int := (row.originId, row.seqno)

@[simp] theorem ChatRow.hasKey_iff {τ : Type} {originId : Bytes} {seqno : Int} {row : ChatRow τ} :
    row.hasKey originId seqno = true ↔ row.key = (originId, seqno) := by
  simp [ChatRow.hasKey, ChatRow.key]

/-- A Python `float` as `sqlite3` binds it: NaN binds as NULL, since SQLite
stores no NaN, and any other value as a `REAL` of the column's order. -/
inductive PyFloat (τ : Type) where
  | nan
  | real (value : τ)
  deriving DecidableEq, Repr

/-- Binding a Python `int` to an SQL parameter: `sqlite3` raises
`OverflowError` for a value outside SQLite's 64-bit `INTEGER`. -/
def bindInteger : Int → Except PyError Int
  | .ofNat v => if v < 2 ^ 63 then .ok (.ofNat v) else .error .overflowError
  | .negSucc v => if v < 2 ^ 63 then .ok (.negSucc v) else .error .overflowError

/-- A binding that succeeds binds the value itself. -/
theorem eq_of_bindInteger {value bound : Int} (bound_eq : bindInteger value = .ok bound) :
    bound = value := by
  cases value <;> simp only [bindInteger] at bound_eq <;> split at bound_eq <;> cases bound_eq <;> rfl

/-- One `add_message` call, with the clock reading that stands in for a
missing `ts`. -/
structure AddMessageCall (τ : Type) where
  now : τ
  originId : Bytes
  seqno : Int
  channel : String
  nick : String
  text : String
  ts : Option (PyFloat τ)

/-- The row a call inserts when its key is new: none when binding `seqno`
raises or `ts` is NaN. -/
def AddMessageCall.row? {τ : Type} (call : AddMessageCall τ) : Option (ChatRow τ) :=
  match bindInteger call.seqno, call.ts.getD (.real call.now) with
  | .ok seqno, .real ts => some ⟨call.originId, seqno, call.channel, call.nick, call.text, ts⟩
  | _, _ => none

namespace ChatStore

variable {τ : Type}

/-- `__init__` on a new database file: `_init_schema` creates an empty table. -/
def empty : ChatStore τ := ⟨[]⟩

/-- `INSERT OR IGNORE` of a row that meets `NOT NULL`: nothing when its key is
already stored. -/
def insertRow (store : ChatStore τ) (row : ChatRow τ) : ChatStore τ :=
  if store.rows.any (ChatRow.hasKey row.originId row.seqno) then store else ⟨store.rows ++ [row]⟩

/-- `add_message`, with `time.time()` at `now` standing for a missing `ts`:
binding `seqno` can raise `OverflowError`, and a NaN `ts` is a NULL that `OR
IGNORE` skips. -/
def addMessage (store : ChatStore τ) (now : τ) (originId : Bytes) (seqno : Int)
    (channel nick text : String) (ts : Option (PyFloat τ)) : Except PyError (ChatStore τ) := do
  let seqno ← bindInteger seqno
  match ts.getD (.real now) with
  | .nan => pure store
  | .real ts => pure (store.insertRow ⟨originId, seqno, channel, nick, text, ts⟩)

/-- `add_message` with the arguments of a call. -/
def addCall (store : ChatStore τ) (call : AddMessageCall τ) : Except PyError (ChatStore τ) :=
  store.addMessage call.now call.originId call.seqno call.channel call.nick call.text call.ts

/-- The table after a call: one that raised leaves it as it was. -/
def afterCall (store : ChatStore τ) (call : AddMessageCall τ) : ChatStore τ :=
  match store.addCall call with
  | .ok next => next
  | .error _ => store

/-- A sequence of `add_message` calls. -/
def addAll (store : ChatStore τ) (calls : List (AddMessageCall τ)) : ChatStore τ :=
  calls.foldl afterCall store

/-- `has_message`; binding `seqno` can raise `OverflowError`. -/
def hasMessage (store : ChatStore τ) (originId : Bytes) (seqno : Int) : Except PyError Bool := do
  let seqno ← bindInteger seqno
  pure (store.rows.any (ChatRow.hasKey originId seqno))

/-! ## Runs of `add_message` -/

/-- A call stores its row, if it has one, unless the row's key is stored. -/
theorem afterCall_eq (store : ChatStore τ) (call : AddMessageCall τ) :
    store.afterCall call = match call.row? with
      | some row => store.insertRow row
      | none => store := by
  unfold afterCall addCall addMessage AddMessageCall.row?
  cases bindInteger call.seqno with
  | error err => rfl
  | ok seqno => cases call.ts.getD (.real call.now) <;> rfl

theorem rows_insertRow (store : ChatStore τ) (row : ChatRow τ) :
    (store.insertRow row).rows =
      if row.key ∈ store.rows.map ChatRow.key then store.rows else store.rows ++ [row] := by
  have present : store.rows.any (ChatRow.hasKey row.originId row.seqno) = true ↔
      row.key ∈ store.rows.map ChatRow.key := by
    simp only [List.any_eq_true, ChatRow.hasKey_iff, List.mem_map]
    exact Iff.rfl
  unfold insertRow
  by_cases found : row.key ∈ store.rows.map ChatRow.key
  · rw [if_pos (present.2 found), if_pos found]
  · rw [if_neg (mt present.1 found), if_neg found]

@[simp] theorem addAll_nil (store : ChatStore τ) : store.addAll [] = store := rfl

@[simp] theorem addAll_cons (store : ChatStore τ) (call : AddMessageCall τ)
    (calls : List (AddMessageCall τ)) :
    store.addAll (call :: calls) = (store.afterCall call).addAll calls := rfl

theorem addAll_append (store : ChatStore τ) (calls calls' : List (AddMessageCall τ)) :
    store.addAll (calls ++ calls') = (store.addAll calls).addAll calls' :=
  List.foldl_append _ _ _ _

/-- `INSERT OR IGNORE` never removes or changes a row. -/
theorem rows_sublist_afterCall (store : ChatStore τ) (call : AddMessageCall τ) :
    store.rows.Sublist (store.afterCall call).rows := by
  rw [afterCall_eq]
  split
  · rw [rows_insertRow]
    split
    · exact List.Sublist.refl _
    · exact List.sublist_append_left _ _
  · exact List.Sublist.refl _

theorem rows_sublist_addAll (store : ChatStore τ) (calls : List (AddMessageCall τ)) :
    store.rows.Sublist (store.addAll calls).rows := by
  induction calls generalizing store with
  | nil => exact List.Sublist.refl _
  | cons call calls ih => exact (rows_sublist_afterCall store call).trans (ih _)

/-- A call with a row leaves the row's key stored for good, and the row itself
when no earlier call stored a row with its key. -/
theorem addAll_of_row {store : ChatStore τ} {before after : List (AddMessageCall τ)}
    {call : AddMessageCall τ} {row : ChatRow τ} (inserted : call.row? = some row) :
    row.key ∈ (store.addAll (before ++ call :: after)).rows.map ChatRow.key ∧
      (row.key ∉ (store.addAll before).rows.map ChatRow.key →
        row ∈ (store.addAll (before ++ call :: after)).rows) := by
  have kept := rows_sublist_addAll ((store.addAll before).afterCall call) after
  rw [← addAll_cons, ← addAll_append, afterCall_eq, inserted, rows_insertRow] at kept
  by_cases fresh : row.key ∈ (store.addAll before).rows.map ChatRow.key
  · rw [if_pos fresh] at kept
    exact ⟨(kept.map ChatRow.key).subset fresh, absurd fresh⟩
  · rw [if_neg fresh] at kept
    have stored := kept.subset (List.mem_append_right _ (List.mem_singleton_self row))
    exact ⟨List.mem_map_of_mem _ stored, fun _ => stored⟩

/-- The `UNIQUE(origin_id, seqno)` constraint holds after every call. -/
theorem nodup_keys_addAll {store : ChatStore τ} (unique : (store.rows.map ChatRow.key).Nodup)
    (calls : List (AddMessageCall τ)) : ((store.addAll calls).rows.map ChatRow.key).Nodup := by
  induction calls generalizing store with
  | nil => exact unique
  | cons call calls ih =>
      apply ih
      rw [afterCall_eq]
      split
      · rw [rows_insertRow]
        split
        · exact unique
        · next fresh =>
            rw [List.map_append, List.nodup_append]
            exact ⟨unique, List.nodup_singleton _, by simpa using fresh⟩
      · exact unique

/-- Every row is the store's or the row of a call. -/
theorem mem_addAll {store : ChatStore τ} {calls : List (AddMessageCall τ)} {row : ChatRow τ}
    (mem : row ∈ (store.addAll calls).rows) : row ∈ store.rows ∨ ∃ call ∈ calls, call.row? = some row := by
  induction calls generalizing store with
  | nil => exact .inl mem
  | cons call calls ih =>
      rcases ih mem with earlier | ⟨later, laterMem, inserted⟩
      · rw [afterCall_eq] at earlier
        split at earlier
        · next stored rowIs =>
            rw [rows_insertRow] at earlier
            split at earlier
            · exact .inl earlier
            · rcases List.mem_append.1 earlier with old | new
              · exact .inl old
              · exact .inr ⟨call, .head _, by rw [rowIs, List.mem_singleton.1 new]⟩
        · exact .inl earlier
      · exact .inr ⟨later, .tail _ laterMem, inserted⟩

theorem hasMessage_eq_ok_true {store : ChatStore τ} {originId : Bytes} {seqno : Int} :
    store.hasMessage originId seqno = .ok true ↔
      bindInteger seqno = .ok seqno ∧ (originId, seqno) ∈ store.rows.map ChatRow.key := by
  unfold hasMessage
  cases bound : bindInteger seqno with
  | error err => simp [bind, Except.bind]
  | ok value =>
      obtain rfl := eq_of_bindInteger bound
      simp only [bind, Except.bind, pure, Except.pure, Except.ok.injEq, List.any_eq_true,
        ChatRow.hasKey_iff, List.mem_map, true_and]

/-- A row's `seqno` is one that binds. -/
theorem bindInteger_of_mem_addAll {calls : List (AddMessageCall τ)} {row : ChatRow τ}
    (mem : row ∈ ((empty : ChatStore τ).addAll calls).rows) : bindInteger row.seqno = .ok row.seqno := by
  obtain ⟨call, -, inserted⟩ := (mem_addAll mem).resolve_left (List.not_mem_nil _)
  unfold AddMessageCall.row? at inserted
  split at inserted
  · next seqno ts bound _ =>
      cases inserted
      obtain rfl := eq_of_bindInteger bound
      exact bound
  · cases inserted

/-- A call whose `ts` is NaN stores nothing, so a later call with the same key
stores its own row; a `seqno` of `2 ^ 63` does not bind. -/
example : ((empty : ChatStore Int).addAll [⟨0, [1], 1, "general", "A", "lost", some .nan⟩,
      ⟨0, [1], 1, "general", "A", "kept", some (.real 1)⟩]).rows = [⟨[1], 1, "general", "A", "kept", 1⟩] ∧
    (empty : ChatStore Int).hasMessage [1] (2 ^ 63) = .error .overflowError :=
  ⟨by decide, rfl⟩

/-! ## Queries -/

variable [LinearOrder τ]

/-- `ORDER BY ts ASC`: a stable sort, rows of equal `ts` in `rowid` order. -/
def orderByTs (rows : List (ChatRow τ)) : List (ChatRow τ) :=
  rows.insertionSort fun a b => a.ts ≤ b.ts

/-- `SELECT ... WHERE ... ORDER BY ts ASC LIMIT ?`; SQLite reads a negative
`LIMIT` as no limit. -/
def selectOrdered (store : ChatStore τ) (selected : ChatRow τ → Bool) (limit : Int) :
    List (ChatRow τ) :=
  match limit with
  | .ofNat count => (orderByTs (store.rows.filter selected)).take count
  | .negSucc _ => orderByTs (store.rows.filter selected)

/-- `get_recent_messages(channel, limit)`; the source's default `limit` is 100. -/
def getRecentMessages (store : ChatStore τ) (channel : String) (limit : Int) :
    List (ChatRow τ) :=
  store.selectOrdered (fun row => row.channel == channel) limit

/-- `get_messages_since(channel, since_ts, limit)`; the default `limit` is 100. -/
def getMessagesSince (store : ChatStore τ) (channel : String) (sinceTs : τ) (limit : Int) :
    List (ChatRow τ) :=
  store.selectOrdered (fun row => row.channel == channel && decide (sinceTs < row.ts)) limit

/-! ## Query results -/

theorem sorted_orderByTs (rows : List (ChatRow τ)) :
    (orderByTs rows).Sorted fun a b => a.ts ≤ b.ts :=
  have : IsTotal (ChatRow τ) fun a b => a.ts ≤ b.ts := ⟨fun a b => le_total a.ts b.ts⟩
  have : IsTrans (ChatRow τ) fun a b => a.ts ≤ b.ts := ⟨fun _ _ _ => le_trans⟩
  List.sorted_insertionSort _ rows

/-- Two messages on `general`, sent at times 1 and 2. -/
def twoMessages : ChatStore Int :=
  empty.addAll [⟨0, [1], 1, "general", "A", "first", some (.real 1)⟩,
    ⟨0, [2], 1, "general", "B", "second", some (.real 2)⟩]

/-- Asked for the latest message on `general`, the store returns the older of
the two: `ORDER BY ts ASC LIMIT 1` keeps the oldest row. -/
theorem getRecentMessages_twoMessages :
    twoMessages.getRecentMessages "general" 1 = [⟨[1], 1, "general", "A", "first", 1⟩] ∧
    ⟨[2], 1, "general", "B", "second", 2⟩ ∈ twoMessages.rows := by
  decide

/-! ## Paging with `get_messages_since` -/

/-- The channel's rows in the order the queries return them. -/
def channelRows (store : ChatStore τ) (channel : String) : List (ChatRow τ) :=
  orderByTs (store.rows.filter fun row => row.channel == channel)

/-- A row no later than every row of a list goes in front of it. -/
theorem orderedInsert_of_forall_le {row : ChatRow τ} :
    ∀ {rows : List (ChatRow τ)}, (∀ other ∈ rows, row.ts ≤ other.ts) →
      rows.orderedInsert (fun a b => a.ts ≤ b.ts) row = row :: rows
  | [], _ => rfl
  | other :: _, first => List.orderedInsert_of_le _ _ (first other (List.mem_cons_self _ _))

/-- Inserting into a sorted list commutes with filtering: the rows before the
insertion point are older than the new row, and the rows after it are not. -/
theorem filter_orderedInsert (p : ChatRow τ → Bool) (row : ChatRow τ) :
    ∀ {rows : List (ChatRow τ)}, rows.Sorted (fun a b => a.ts ≤ b.ts) →
      (rows.orderedInsert (fun a b => a.ts ≤ b.ts) row).filter p =
        if p row then (rows.filter p).orderedInsert (fun a b => a.ts ≤ b.ts) row else rows.filter p
  | [], _ => by cases h : p row <;> simp [h]
  | head :: rows, sorted => by
      have headFirst : ∀ other ∈ rows, head.ts ≤ other.ts := List.rel_of_sorted_cons sorted
      by_cases older : row.ts ≤ head.ts
      · have front : ∀ other ∈ (head :: rows).filter p, row.ts ≤ other.ts := fun other member => by
          rcases List.mem_cons.mp (List.mem_filter.mp member).1 with rfl | member
          · exact older
          · exact older.trans (headFirst other member)
        rw [List.orderedInsert_of_le (fun a b => a.ts ≤ b.ts) rows older, orderedInsert_of_forall_le front]
        cases h : p row <;> simp [List.filter_cons, h]
      · have later := filter_orderedInsert p row sorted.of_cons
        rw [List.orderedInsert, if_neg older, List.filter_cons, later]
        cases hr : p row <;> cases hh : p head <;> simp [List.filter_cons, hr, hh, older]

/-- `ORDER BY ts` commutes with `WHERE`: the sort is stable. -/
theorem orderByTs_filter (p : ChatRow τ → Bool) :
    ∀ rows : List (ChatRow τ), orderByTs (rows.filter p) = (orderByTs rows).filter p
  | [] => rfl
  | row :: rows => by
      have sorted := sorted_orderByTs rows
      have earlier := orderByTs_filter p rows
      simp only [orderByTs, List.insertionSort] at sorted earlier ⊢
      rw [filter_orderedInsert p row sorted, ← earlier, List.filter_cons]
      cases p row <;> rfl

/-- Every `get_messages_since` reads the same order of the channel's rows: the
rows after `since_ts`, cut at the limit. -/
theorem getMessagesSince_eq (store : ChatStore τ) (channel : String) (since : τ) (count : Nat) :
    store.getMessagesSince channel since count =
      ((store.channelRows channel).filter fun row => since < row.ts).take count := by
  show (orderByTs (store.rows.filter _)).take count = _
  rw [channelRows, ← orderByTs_filter, List.filter_filter]
  congr 3
  funext row
  exact Bool.and_comm _ _

/-- In a list sorted by `ts`, no row is later than the last. -/
theorem ts_le_of_getLast {rows : List (ChatRow τ)} (sorted : rows.Sorted (fun a b => a.ts ≤ b.ts))
    {last : ChatRow τ} (lastIs : rows.getLast? = some last) : ∀ row ∈ rows, row.ts ≤ last.ts := by
  obtain ⟨init, rfl⟩ := List.getLast?_eq_some_iff.mp lastIs
  intro row member
  rcases List.mem_append.mp member with before | isLast
  · exact (List.pairwise_append.mp sorted).2.2 row before last (List.mem_singleton_self _)
  · rw [List.mem_singleton.mp isLast]

/-- Three messages on `general`, the last two sent at the same time. -/
def tiedMessages : ChatStore Int :=
  twoMessages.addAll [⟨0, [3], 1, "general", "C", "third", some (.real 2)⟩]

/-- The page after the first two rows, asked from `ts = 2`, is empty: the third
row, sent at the same time as the second, is skipped. -/
example : tiedMessages.getMessagesSince "general" 2 5 = [] ∧
    ⟨[3], 1, "general", "C", "third", 2⟩ ∈ tiedMessages.rows := by decide

end ChatStore

end ArdopMeshChat
