import Accumulator.Proofs.Labels

/-!
# Symbol tables over time

Of all that was done to a table, only the definitions since the last reset count. Names that differ in
letter case are one name; its address is that of its last definition (`latest?`) and its place that of
its first (`listed`). The names of the console are there from the start and keep the first two places.
Main statement: `lists_definitions`.
-/
namespace Accumulator.SymbolTable

/-- What can be asked of a table that changes it. -/
inductive Request where
  | define (name : String) (address : Nat)
  | reset
  deriving DecidableEq, Repr

/-- The names that every table starts with. -/
def consoleNames : List String := ["stdin", "stdout"]

/-- A definition is answered with the address that the name stood for. -/
def answer (table : SymbolTable) : Request → Option Nat × SymbolTable
  | .define name address => table.redefine name address
  | .reset => (none, .initial)

def after (table : SymbolTable) (requests : List Request) : SymbolTable :=
  requests.foldl (fun table request => (table.answer request).2) table

/-- The definitions since the last reset, given those before this request. -/
def Request.record (defined : List (String × Nat)) : Request → List (String × Nat)
  | .define name address => defined ++ [(name, address)]
  | .reset => []

/-- The definitions since the last reset, in order. -/
def definitions (requests : List Request) : List (String × Nat) := requests.foldl Request.record []

/-- The address of the last definition of a name, which is given in lower case. -/
def latest? (defined : List (String × Nat)) (key : String) : Option Nat :=
  (defined.reverse.find? fun definition => Text.lowercase definition.1 = key).map Prod.snd

/-- The names of the console and behind them all others, in the order of their first definitions. -/
def listed (defined : List (String × Nat)) : List String :=
  consoleNames ++
    ((defined.map fun definition => Text.lowercase definition.1).filter
      fun key => key ∉ consoleNames).eraseDups

/-- Is this the table after these definitions? -/
structure Tracks (table : SymbolTable) (defined : List (String × Nat)) : Prop where
  entries : table.entries = (listed defined).map fun key => (key, (latest? defined key).getD 0)
  get? : ∀ name, table.get? name =
    (latest? defined (Text.lowercase name)).or (if IsConsoleName name then some 0 else none)

/-! ### Definitions -/

theorem latest?_concat (defined : List (String × Nat)) (name : String) (address : Nat)
    (key : String) :
    latest? (defined ++ [(name, address)]) key =
      if key = Text.lowercase name then some address else latest? defined key := by
  unfold latest?
  rw [List.reverse_concat, List.find?_cons]
  by_cases same : key = Text.lowercase name
  · simp [same]
  · simp [same, Ne.symm same]

theorem eraseDups_concat (keys : List String) (key : String) :
    (keys ++ [key]).eraseDups = if key ∈ keys then keys.eraseDups else keys.eraseDups ++ [key] := by
  rw [List.eraseDups_append]
  split
  next member => simp [List.removeAll, member]
  next fresh => simp [List.removeAll, fresh, List.eraseDups_cons]

/-- A name that is defined again keeps its place, and a new one comes last. -/
theorem listed_concat (defined : List (String × Nat)) (name : String) (address : Nat) :
    listed (defined ++ [(name, address)]) =
      if Text.lowercase name ∈ listed defined then listed defined
      else listed defined ++ [Text.lowercase name] := by
  unfold listed
  rw [List.map_append, List.filter_append]
  by_cases console : Text.lowercase name ∈ consoleNames
  · simp [console]
  · have other : [Text.lowercase name].filter (fun key => key ∉ consoleNames) =
        [Text.lowercase name] := by simp [console]
    rw [List.map_singleton, other, eraseDups_concat]
    simp only [List.mem_append, List.mem_eraseDups, console, false_or]
    split
    · rfl
    · rw [List.append_assoc]

theorem nodup_listed (defined : List (String × Nat)) : (listed defined).Nodup := by
  -- By induction from the end: a definition adds a name only if that is new.
  induction defined using List.reverseRecOn with
  | nil => decide
  | append_singleton defined definition ih =>
    rw [listed_concat]
    split
    · exact ih
    next fresh => exact ih.append (List.nodup_singleton _) (List.disjoint_singleton.mpr fresh)

theorem isUpper_of_mem_listed {defined : List (String × Nat)} {key : String}
    (member : key ∈ listed defined) : ∀ c ∈ key.toList, c.isUpper = false := by
  have lowered : ∃ name, Text.lowercase name = key := by
    rw [listed, List.mem_append, List.mem_eraseDups, List.mem_filter, List.mem_map] at member
    rcases member with console | ⟨⟨definition, -, same⟩, -⟩
    · refine ⟨key, ?_⟩
      revert key
      decide
    · exact ⟨_, same⟩
  obtain ⟨name, rfl⟩ := lowered
  rw [Text.toList_lowercase]
  intro c within
  obtain ⟨letter, -, rfl⟩ := List.mem_map.mp within
  exact Char.isUpper_toLower_eq_false letter

/-! ### Tables -/

/-- An entry with a key that is there already is changed in its place; any other comes last. -/
theorem insert_map (key : String) (address : Nat) (value : String → Nat) {keys : List String}
    (distinct : keys.Nodup) :
    insert key address (keys.map fun other => (other, value other)) =
      (if key ∈ keys then keys else keys ++ [key]).map fun other =>
        (other, if other = key then address else value other) := by
  induction keys with
  | nil => simp [insert]
  | cons first keys ih =>
    obtain ⟨fresh, distinct⟩ := List.nodup_cons.mp distinct
    rw [List.map_cons, insert]
    by_cases here : first = key
    · subst here
      -- The keys behind are other ones.
      have others : ∀ other ∈ keys, other ≠ first := fun other member same => fresh (same ▸ member)
      simp +contextual [others]
    · have elsewhere : key ≠ first := Ne.symm here
      rw [ih distinct]
      simp only [here, if_false, List.mem_cons, elsewhere, false_or]
      split
      · simp [here]
      · simp [here]

namespace Tracks

theorem initial : SymbolTable.initial.Tracks [] where
  entries := by decide
  get? name := by
    simp only [latest?, SymbolTable.get?, SymbolTable.initial, lookup_cons_eq_if, IsConsoleName]
    by_cases stdin : Text.lowercase name = "stdin"
    · simp [stdin]
    · by_cases stdout : Text.lowercase name = "stdout"
      · simp [stdout]
      · simp [stdin, stdout]

variable {table : SymbolTable} {defined : List (String × Nat)}

theorem define (tracks : table.Tracks defined) (name : String) (address : Nat) :
    (table.define name address).Tracks (defined ++ [(name, address)]) where
  entries := by
    rw [SymbolTable.define, tracks.entries, insert_map _ _ _ (nodup_listed defined),
      listed_concat]
    apply List.map_congr_left
    intro key _
    rw [latest?_concat]
    split <;> rfl
  get? other := by
    rw [get?_define, tracks.get? other, latest?_concat]
    split <;> rfl

theorem answer (tracks : table.Tracks defined) (request : Request) :
    (table.answer request).2.Tracks (request.record defined) := by
  cases request with
  | define name address =>
    rw [SymbolTable.answer, redefine_eq]
    exact tracks.define name address
  | reset => exact .initial

theorem after (tracks : table.Tracks defined) (requests : List Request) :
    (table.after requests).Tracks (requests.foldl Request.record defined) := by
  induction requests generalizing table defined with
  | nil => exact tracks
  | cons request later ih => exact ih (tracks.answer request)

end Tracks

/-- After any definitions and resets, a table lists the names of the console and then the others in the
order of their first definitions since the last reset, once each and in lower case, with the addresses
of their last ones. Looking a name up finds its address in any letter case, and defining it is answered
with what looking it up would have found. -/
theorem lists_definitions (requests : List Request) :
    let table := initial.after requests
    let defined := definitions requests
    table.entries = (listed defined).map (fun key => (key, (latest? defined key).getD 0)) ∧
      (table.entries.map Prod.fst).Nodup ∧
      (∀ entry ∈ table.entries, ∀ c ∈ entry.1.toList, c.isUpper = false) ∧
      (∀ name, table.get? name =
        (latest? defined (Text.lowercase name)).or (if IsConsoleName name then some 0 else none)) ∧
      (∀ name address, (table.answer (.define name address)).1 = table.get? name) ∧
      table.size = (listed defined).length := by
  intro table defined
  have tracks : table.Tracks defined := Tracks.initial.after requests
  have keys : table.entries.map Prod.fst = listed defined := by
    rw [tracks.entries, List.map_map]
    exact List.map_id _
  refine ⟨tracks.entries, ?_, ?_, tracks.get?, ?_, ?_⟩
  · rw [keys]
    exact nodup_listed defined
  · intro entry member
    have key : entry.1 ∈ listed defined := keys ▸ List.mem_map_of_mem member
    exact isUpper_of_mem_listed key
  · intro name address
    rw [answer, redefine_eq]
  · rw [size, tracks.entries, List.length_map]

/-- A label that is defined twice, a name of the console that is defined, and a label from before the
reset. -/
theorem lists_definitions_redefined :
    let requests : List Request :=
      [.define "old" 9, .reset, .define "Loop" 4, .define "a" 1, .define "STDIN" 7,
        .define "LOOP" 2]
    let table := initial.after requests
    table.entries = [("stdin", 7), ("stdout", 0), ("loop", 2), ("a", 1)] ∧ table.size = 4 ∧
      (∀ c ∈ "loop".toList, c.isUpper = false) ∧
      table.get? "lOOp" = some 2 ∧ table.get? "old" = none ∧
      (table.answer (.define "StdOut" 3)).1 = some 0 := by
  intro requests table
  obtain ⟨entries, -, lower, found, answered, size⟩ := lists_definitions requests
  have listing : table.entries = [("stdin", 7), ("stdout", 0), ("loop", 2), ("a", 1)] :=
    entries.trans (by decide +kernel)
  have member : ("loop", 2) ∈ table.entries := by
    rw [listing]
    decide
  exact ⟨listing, size.trans (by decide +kernel), lower _ member,
    (found "lOOp").trans (by decide +kernel), (found "old").trans (by decide +kernel),
    (answered "StdOut" 3).trans ((found "StdOut").trans (by decide +kernel))⟩

end Accumulator.SymbolTable
