import AssetAudit.Whitelist.Compiled

/-!
# The entries of a whitelist one by one

Every entry of a list comes to one reading: nothing, a pattern, or a rejected pattern. Compiling a
list takes in the readings of its entries from left to right, and the compiled whitelist accepts a
path when one of them does.
-/
namespace AssetAudit.Whitelist

inductive Reading where
  | nothing
  | pattern (p : Pattern)
  | rejection (r : Rejected)

def Pattern.accepts (path : Text) : Pattern → Bool
  | .path p => p == path
  | .name n => n == Path.basename path
  | .expression _ program => program.occursIn path || program.occursIn (Path.basename path)

namespace Reading

def accepts (path : Text) : Reading → Bool
  | .pattern p => p.accepts path
  | .nothing | .rejection _ => false

def isPattern : Reading → Bool
  | .pattern _ => true
  | .nothing | .rejection _ => false

end Reading

def read (raw : Value) : Except PatternError Reading :=
  if isSkipped raw then .ok .nothing
  else match classify (normalize raw) with
    | .ok p => .ok (.pattern p)
    | .error e => if e.isRejection then .ok (.rejection ⟨normalize raw, e.message⟩) else .error e

def isIdle (raw : Value) : Bool :=
  isSkipped raw || match classify (normalize raw) with
    | .ok _ => false
    | .error e => e.isRejection

theorem isIdle_of_read {raw : Value} {r : Reading} (h : read raw = .ok r) :
    isIdle raw = !r.isPattern := by
  unfold read at h
  unfold isIdle
  split at h
  · rename_i hSkipped
    cases h
    rw [hSkipped]
    rfl
  · rename_i hKept
    rw [Bool.eq_false_iff.mpr hKept, Bool.false_or]
    cases hClass : classify (normalize raw) with
    | ok p =>
      rw [hClass] at h
      cases h
      rfl
    | error e =>
      rw [hClass] at h
      dsimp only at h
      split at h
      · rename_i hRejection
        cases h
        exact hRejection
      · cases h

theorem exists_read_of_isIdle {raw : Value} (h : isIdle raw = true) : ∃ r, read raw = .ok r := by
  unfold isIdle at h
  unfold read
  split
  · exact ⟨_, rfl⟩
  · rename_i hKept
    rw [Bool.eq_false_iff.mpr hKept, Bool.false_or] at h
    cases hClass : classify (normalize raw) with
    | ok p => exact ⟨_, rfl⟩
    | error e =>
      rw [hClass] at h
      exact ⟨_, if_pos h⟩

namespace Compiled

def take (c : Compiled) : Reading → Compiled
  | .nothing => c
  | .pattern p => c.add p
  | .rejection r => c.reject r.pattern r.reason

theorem accepts_add (c : Compiled) (p : Pattern) (path : Text) :
    (c.add p).accepts path = (c.accepts path || p.accepts path) := by
  cases p with
  | path p =>
    by_cases h : p ∈ c.paths
    · by_cases hPath : p = path
      · subst hPath
        simp [add, accepts, Pattern.accepts, h]
      · simp [add, accepts, Pattern.accepts, h, hPath]
    · simp only [add, accepts, Pattern.accepts, List.contains_iff_mem, h]
      grind
  | name n =>
    by_cases h : n ∈ c.names
    · by_cases hName : n = Path.basename path
      · subst hName
        simp [add, accepts, Pattern.accepts, h]
      · simp [add, accepts, Pattern.accepts, h, hName]
    · simp only [add, accepts, Pattern.accepts, List.contains_iff_mem, h]
      grind
  | expression source program => simp [add, accepts, Pattern.accepts, Bool.or_assoc]

theorem accepts_take (c : Compiled) (r : Reading) (path : Text) :
    (c.take r).accepts path = (c.accepts path || r.accepts path) := by
  cases r with
  | nothing => exact (Bool.or_false _).symm
  | pattern p => exact accepts_add c p path
  | rejection r => exact (Bool.or_false _).symm

theorem accepts_foldl_take (readings : List Reading) (c : Compiled) (path : Text) :
    (readings.foldl take c).accepts path = (c.accepts path || readings.any (·.accepts path)) := by
  induction readings generalizing c with
  | nil => simp
  | cons r rest ih => rw [List.foldl_cons, ih, accepts_take, List.any_cons, Bool.or_assoc]

theorem accepts_of_isEmpty {c : Compiled} (h : c.isEmpty = true) (path : Text) :
    c.accepts path = false := by
  simp only [isEmpty, Bool.and_eq_true, List.isEmpty_iff] at h
  simp [accepts, h]

def accepted (c : Compiled) : Compiled :=
  { c with rejected := [] }

theorem accepted_add (c : Compiled) (p : Pattern) : (c.add p).accepted = c.accepted.add p := by
  cases p with
  | path p => by_cases h : p ∈ c.paths <;> simp [add, accepted, h]
  | name n => by_cases h : n ∈ c.names <;> simp [add, accepted, h]
  | expression source program => rfl

theorem accepted_foldl_take (readings : List Reading) (c : Compiled) :
    (readings.foldl take c).accepted =
      (readings.filter Reading.isPattern).foldl take c.accepted := by
  induction readings generalizing c with
  | nil => rfl
  | cons r rest ih =>
    cases r with
    | nothing => exact ih c
    | pattern p => exact (ih (c.add p)).trans (by rw [accepted_add]; rfl)
    | rejection r => exact ih _

end Compiled

theorem compileEntry_eq (c : Compiled) (raw : Value) :
    compileEntry c raw = (read raw).map c.take := by
  unfold compileEntry read
  split
  · rfl
  · cases classify (normalize raw) with
    | ok p => rfl
    | error e => dsimp only; split <;> rfl

theorem foldlM_compileEntry_iff (entries : List Value) (c result : Compiled) :
    entries.foldlM compileEntry c = .ok result ↔
      ∃ readings : List Reading, entries.map read = readings.map .ok ∧
        readings.foldl Compiled.take c = result := by
  induction entries generalizing c with
  | nil => simp [pure, Except.pure]
  | cons raw rest ih =>
    rw [List.foldlM_cons, compileEntry_eq]
    cases hRead : read raw with
    | error e =>
      refine iff_of_false (by simp [Except.map, bind, Except.bind]) ?_
      rintro ⟨_ | ⟨head, readings⟩, hReads, -⟩ <;> simp [hRead] at hReads
    | ok r =>
      change rest.foldlM compileEntry (c.take r) = .ok result ↔ _
      rw [ih]
      constructor
      · rintro ⟨readings, hRest, hResult⟩
        exact ⟨r :: readings, by rw [List.map_cons, List.map_cons, hRead, hRest], hResult⟩
      · rintro ⟨_ | ⟨head, readings⟩, hReads, hResult⟩
        · cases hReads
        · rw [List.map_cons, List.map_cons, hRead, List.cons.injEq] at hReads
          obtain rfl := Except.ok.inj hReads.1
          exact ⟨readings, hReads.2, hResult⟩

theorem compile_eq_ok_iff (entries : List Value) (c : Compiled) :
    compile entries = .ok c ↔
      ∃ readings : List Reading, entries.map read = readings.map .ok ∧
        readings.foldl Compiled.take {} = c :=
  foldlM_compileEntry_iff entries {} c

theorem mem_readings_iff {entries : List Value} {readings : List Reading}
    (h : entries.map read = readings.map .ok) (r : Reading) :
    r ∈ readings ↔ ∃ raw ∈ entries, read raw = .ok r := by
  rw [← List.mem_map, h, List.mem_map]
  simp

theorem exists_compile_iff (entries : List Value) :
    (∃ c, compile entries = .ok c) ↔ ∀ raw ∈ entries, ∃ r, read raw = .ok r := by
  constructor
  · rintro ⟨c, hCompile⟩ raw hRaw
    obtain ⟨readings, hReads, -⟩ := (compile_eq_ok_iff entries c).mp hCompile
    have hMem : read raw ∈ readings.map .ok := hReads ▸ List.mem_map_of_mem hRaw
    obtain ⟨r, -, hRead⟩ := List.mem_map.mp hMem
    exact ⟨r, hRead.symm⟩
  · intro hRead
    have hReadings : ∃ readings : List Reading, entries.map read = readings.map .ok := by
      induction entries with
      | nil => exact ⟨[], rfl⟩
      | cons raw rest ih =>
        obtain ⟨r, hHead⟩ := hRead raw List.mem_cons_self
        obtain ⟨readings, hRest⟩ := ih fun raw hRaw => hRead raw (List.mem_cons_of_mem _ hRaw)
        exact ⟨r :: readings, by rw [List.map_cons, List.map_cons, hHead, hRest]⟩
    obtain ⟨readings, hReads⟩ := hReadings
    exact ⟨_, (compile_eq_ok_iff entries _).mpr ⟨readings, hReads, rfl⟩⟩

/-- A compiled whitelist accepts what the reading of one of its entries accepts. -/
theorem accepts_compile_iff {entries : List Value} {c : Compiled} (h : compile entries = .ok c)
    (path : Text) :
    c.accepts path = true ↔ ∃ raw ∈ entries, ∃ r, read raw = .ok r ∧ r.accepts path = true := by
  obtain ⟨readings, hReads, rfl⟩ := (compile_eq_ok_iff entries c).mp h
  rw [Compiled.accepts_foldl_take, Compiled.accepts_of_isEmpty rfl, Bool.false_or, List.any_eq_true]
  constructor
  · rintro ⟨r, hMem, hAccepts⟩
    obtain ⟨raw, hRaw, hRead⟩ := (mem_readings_iff hReads r).mp hMem
    exact ⟨raw, hRaw, r, hRead, hAccepts⟩
  · rintro ⟨raw, hRaw, r, hRead, hAccepts⟩
    exact ⟨r, (mem_readings_iff hReads r).mpr ⟨raw, hRaw, hRead⟩, hAccepts⟩

/-- Entries that come to nothing and rejected ones can be left out. -/
theorem compile_filter_isIdle {entries : List Value} {c : Compiled} (h : compile entries = .ok c) :
    compile (entries.filter fun raw => !isIdle raw) = .ok c.accepted := by
  obtain ⟨readings, hReads, rfl⟩ := (compile_eq_ok_iff entries c).mp h
  refine (compile_eq_ok_iff _ _).mpr ⟨readings.filter Reading.isPattern, ?_,
    (Compiled.accepted_foldl_take readings {}).symm⟩
  clear h
  induction entries generalizing readings with
  | nil => cases readings with
    | nil => rfl
    | cons r rest => cases hReads
  | cons raw rest ih =>
    cases readings with
    | nil => cases hReads
    | cons r readings =>
      rw [List.map_cons, List.map_cons, List.cons.injEq] at hReads
      have hIdle : (!isIdle raw) = r.isPattern := by rw [isIdle_of_read hReads.1, Bool.not_not]
      rw [List.filter_cons, List.filter_cons, hIdle]
      split
      · rw [List.map_cons, List.map_cons, hReads.1, ih readings hReads.2]
      · exact ih readings hReads.2

theorem compile_singleton (raw : Value) :
    compile [raw] = (read raw).map fun r => Compiled.take {} r := by
  rw [compile, List.foldlM_cons, compileEntry_eq]
  cases read raw <;> rfl

end AssetAudit.Whitelist
