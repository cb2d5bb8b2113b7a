import TradingLatency.Lib.CText
import TradingLatency.Lib.Lines
import Mathlib.Logic.Function.Basic

/-!
# The shared configuration file (`config.rs`, `Config.cpp`)

The Rust client parses `config.properties` into a map: lines are trimmed, blank
lines and comments are skipped, keys and values are trimmed, and the last line for
a key counts. The C++ client reads the file anew for each key: nothing is trimmed,
the first line with exactly this text before its `=` counts, and an empty value is
taken as a missing one. Lists are split at commas; the Rust client trims the items,
the C++ client drops an empty item at the end.

`clients_agree_iff` says for which files and keys the two clients get the same
value, and the same list.
-/

namespace TradingLatency.Properties

open CText Lines

/-! ## The Rust client -/

/-- `char::is_whitespace`, the Unicode property `White_Space`. -/
def isWhitespace (c : Char) : Bool :=
  let n := c.toNat
  (9 ≤ n && n ≤ 13) || n == 0x20 || n == 0x85 || n == 0xA0 || n == 0x1680 ||
    (0x2000 ≤ n && n ≤ 0x200A) || n == 0x2028 || n == 0x2029 || n == 0x202F || n == 0x205F ||
    n == 0x3000

/-- `str::trim`. -/
def trim (s : Text) : Text := Lines.trim isWhitespace s

/-- One line of `str::lines`: the line feed and a carriage return before it are
removed. -/
def chompLine (line : Text) : Text :=
  match stripSuffix '\n' line with
  | none => line
  | some line => (stripSuffix '\r' line).getD line

/-- `str::lines`. -/
def lines (content : Text) : List Text := (splitInclusive '\n' content).map chompLine

/-- `str::split_once`. -/
def splitOnce (sep : Char) (s : Text) : Option (Text × Text) :=
  if sep ∈ s then some (before sep s, behind sep s) else none

/-- The key and the value that a line inserts. -/
def property (line : Text) : Option (Text × Text) :=
  let trimmed := trim line
  if trimmed.isEmpty || trimmed.head? == some '#' then none
  else (splitOnce '=' trimmed).map fun kv => (trim kv.1, trim kv.2)

/-- The body of the loop of `parse_properties`. -/
def insertLine (map : Text → Option Text) (line : Text) : Text → Option Text :=
  match property line with
  | some (key, value) => Function.update map key (some value)
  | none => map

/-- `parse_properties`. -/
def parseProperties (content : Text) : Text → Option Text :=
  (lines content).foldl insertLine fun _ => none

/-- A list in `from_properties_str`, such as `coin_pairs`; `none` when the default
is taken. -/
def propertyList (content key : Text) : Option (List Text) :=
  (parseProperties content key).map fun value => (value.splitOn ',').map trim

/-! ## The C++ client -/

/-- What the two `std::getline` calls on a line read, the text before the first `=`
and the text behind it. The first call fails on an empty line. -/
def configEntry (line : Text) : Option (Text × Text) :=
  if line.isEmpty then none else some (before '=' line, behind '=' line)

/-- The loop of `getProperty`. -/
def findValue (key : Text) : List Text → Text
  | [] => []
  | line :: rest =>
      match configEntry line with
      | some (configKey, value) => if configKey = key then value else findValue key rest
      | none => findValue key rest

/-- The value that `getProperty` finds; `none` when the default is taken. -/
def configProperty (content key : Text) : Option Text :=
  let value := findValue key (getlines '\n' content)
  if value.isEmpty then none else some value

/-- `getProperty`. -/
def getProperty (content key defaultValue : Text) : Text :=
  (configProperty content key).getD defaultValue

/-- `getListProperty`. -/
def getListProperty (content key defaultValue : Text) : List Text :=
  getlines ',' (getProperty content key defaultValue)

/-! ## Statement -/

/-- Both clients have the same value for the key, or none. -/
def SameValue (content key : Text) : Prop := parseProperties content key = configProperty content key

/-- Both clients have the same list for the key, or none. -/
def SameList (content key : Text) : Prop :=
  propertyList content key = (configProperty content key).map (getlines ',')

/-- The line has exactly the key before its first `=`, or is the key. -/
def names (key line : Text) : Bool := !line.isEmpty && before '=' line == key

/-- What the line assigns to the key when it is trimmed. -/
def assigned (key line : Text) : Option Text :=
  (property line).bind fun kv => if kv.1 = key then some kv.2 else none

/-- No line assigns the key, and the first line that has exactly the key before
its `=` has nothing behind it. -/
structure Unset (content key : Text) : Prop where
  unassigned : ∀ line ∈ getlines '\n' content, assigned key line = none
  empty : ∀ line, (getlines '\n' content).find? (names key) = some line → behind '=' line = []

/-- The line `key=value` is in the file, without white space around the key and
the value, and the value is not empty; no line before it has exactly the key before
its `=`, and the last line behind it that assigns the key, if there is any, assigns
the same value. -/
structure SetPlainly (content key value : Text) : Prop where
  line : ∃ before after, getlines '\n' content = before ++ (key ++ '=' :: value) :: after ∧
    (∀ l ∈ before, names key l = false) ∧
    ∀ later ∈ (after.filterMap (assigned key)).getLast?, later = value
  key_trimmed : trim key = key
  key_noComment : key.head? ≠ some '#'
  key_noEquals : '=' ∉ key
  value_ne_nil : value ≠ []
  value_trimmed : trim value = value

/-- The items of the list have no white space around them, and the last one is not
empty. -/
structure ListedPlainly (value : Text) : Prop where
  items : ∀ item ∈ value.splitOn ',', trim item = item
  last : value.getLast? ≠ some ','

/-! ## What the Rust client parses -/

/-- A carriage return at the end does not matter. -/
theorem trim_stripSuffix (line : Text) : trim ((stripSuffix '\r' line).getD line) = trim line := by
  unfold stripSuffix
  split
  · rename_i hlast
    rcases List.getLast?_eq_some_iff.mp hlast with ⟨rest, rfl⟩
    rw [List.dropLast_concat]
    exact (trim_concat rfl).symm
  · rfl

theorem trim_chompLine (line : Text) :
    trim (chompLine line) = trim ((stripSuffix '\n' line).getD line) := by
  unfold chompLine
  cases stripSuffix '\n' line with
  | none => rfl
  | some line => exact trim_stripSuffix line

theorem assigned_congr {key line line' : Text} (h : trim line = trim line') :
    assigned key line = assigned key line' := by
  unfold assigned property
  rw [h]

/-- Both clients read the same lines, up to white space. -/
theorem filterMap_assigned_lines (content key : Text) :
    (lines content).filterMap (assigned key) =
      (getlines '\n' content).filterMap (assigned key) := by
  rw [← map_stripSuffix_splitInclusive, lines, List.filterMap_map, List.filterMap_map]
  refine List.filterMap_congr ?_
  intro line _
  exact assigned_congr (trim_chompLine line)

theorem insertLine_apply (map : Text → Option Text) (line key : Text) :
    insertLine map line key = (assigned key line).or (map key) := by
  unfold insertLine assigned
  cases property line with
  | none => rfl
  | some kv =>
    by_cases hkey : kv.1 = key
    · simp [hkey]
    · simp [hkey, Function.update_of_ne (Ne.symm hkey)]

/-- The last line that assigns the key counts. -/
theorem foldl_insertLine (ls : List Text) (key : Text) :
    ls.foldl insertLine (fun _ => none) key = (ls.filterMap (assigned key)).getLast? := by
  induction ls using List.reverseRecOn with
  | nil => rfl
  | append_singleton ls line ih =>
    rw [List.foldl_concat, insertLine_apply, ih, List.filterMap_append, List.getLast?_append]
    cases hline : assigned key line <;> simp [hline]

theorem parseProperties_eq (content key : Text) :
    parseProperties content key =
      ((getlines '\n' content).filterMap (assigned key)).getLast? := by
  rw [parseProperties, foldl_insertLine, filterMap_assigned_lines]

/-- A line that assigns a value has a key and a value around its first `=`, and
is no comment. -/
theorem property_eq_some {line key value : Text} (h : property line = some (key, value)) :
    (trim line).head? ≠ some '#' ∧ '=' ∈ trim line ∧ key = trim (before '=' (trim line)) ∧
      value = trim (behind '=' (trim line)) := by
  simp only [property, splitOnce] at h
  split at h
  · cases h
  · rename_i hline
    split at h
    · rename_i hmem
      cases h
      refine ⟨?_, hmem, rfl, rfl⟩
      intro hhead
      simp [hhead] at hline
    · cases h

/-- The start of a trimmed line is not changed by trimming the key. -/
theorem head?_key {line : Text} (hmem : '=' ∈ trim line)
    (hne : trim (before '=' (trim line)) ≠ []) :
    (trim (before '=' (trim line))).head? = (trim line).head? := by
  have hkey : before '=' (trim line) ≠ [] := by
    intro hnil
    rw [hnil] at hne
    exact hne rfl
  have hhead : (trim line).head? = (before '=' (trim line)).head? := by
    conv_lhs => rw [eq_before_append_behind hmem]
    exact List.head?_append_of_ne_nil _ hkey
  rw [hhead]
  apply head?_trim _ hne
  rw [← hhead]
  exact (trim_eq_self_iff.mp (trim_trim line)).1

theorem assigned_eq_some_iff {key line value : Text} :
    assigned key line = some value ↔ property line = some (key, value) := by
  unfold assigned
  rw [Option.bind_eq_some_iff]
  constructor
  · rintro ⟨kv, hkv, hvalue⟩
    split at hvalue
    · rename_i hkey
      cases hvalue
      rw [hkv, ← hkey]
    · cases hvalue
  · intro h
    exact ⟨_, h, if_pos rfl⟩

/-- Keys and values of the map are trimmed, and no key starts a comment. -/
theorem trimmed_of_assigned {key line value : Text} (h : assigned key line = some value) :
    trim key = key ∧ key.head? ≠ some '#' ∧ trim value = value := by
  rcases property_eq_some (assigned_eq_some_iff.mp h) with ⟨hcomment, hmem, rfl, rfl⟩
  refine ⟨trim_trim _, ?_, trim_trim _⟩
  intro hhead
  have hne : trim (before '=' (trim line)) ≠ [] := by
    intro hnil
    rw [hnil] at hhead
    cases hhead
  rw [head?_key hmem hne] at hhead
  exact hcomment hhead

/-- A plain line assigns its value. -/
theorem assigned_plain {key value : Text} (hkey : trim key = key) (hcomment : key.head? ≠ some '#')
    (hequals : '=' ∉ key) (hne : value ≠ []) (hvalue : trim value = value) :
    assigned key (key ++ '=' :: value) = some value := by
  have hkey' := (trim_eq_self_iff.mp hkey).1
  have hhead : ∀ c ∈ (key ++ '=' :: value).head?, isWhitespace c = false ∧ c ≠ '#' := by
    intro c hc
    -- the line starts with the key, or with `=` where the key is empty
    cases key with
    | nil =>
      cases hc
      decide
    | cons a key =>
      refine ⟨hkey' c hc, ?_⟩
      rintro rfl
      exact hcomment hc
  have hlast : (key ++ '=' :: value).getLast? = value.getLast? := by
    rw [List.getLast?_append_of_ne_nil _ (List.cons_ne_nil _ _), List.getLast?_cons_of_ne_nil hne]
  have htrim : trim (key ++ '=' :: value) = key ++ '=' :: value := by
    refine trim_eq_self_iff.mpr ⟨fun c hc => (hhead c hc).1, ?_⟩
    rw [hlast]
    exact (trim_eq_self_iff.mp hvalue).2
  have hnoComment : (key ++ '=' :: value).head? ≠ some '#' := fun h => (hhead '#' h).2 rfl
  -- the first `=` is the one behind the key
  rcases cut_append hequals value with ⟨hbefore, hbehind⟩
  rw [assigned_eq_some_iff, property]
  simp only [htrim]
  rw [if_neg (by simpa using hnoComment), splitOnce, if_pos (by simp), hbefore, hbehind,
    Option.map_some, hkey, hvalue]

/-! ## What the C++ client finds -/

theorem findValue_eq (key : Text) (ls : List Text) :
    findValue key ls = ((ls.find? (names key)).map (behind '=')).getD [] := by
  induction ls with
  | nil => rfl
  | cons line ls ih =>
    rw [findValue, List.find?_cons, configEntry, names]
    cases hempty : line.isEmpty with
    | true => exact ih
    | false =>
      by_cases hkey : before '=' line = key
      · simp [hkey]
      · have hbeq : (before '=' line == key) = false := by simpa using hkey
        simpa [hkey, hbeq] using ih

theorem configProperty_eq_some_iff {content key value : Text} :
    configProperty content key = some value ↔
      value ≠ [] ∧ ∃ line, (getlines '\n' content).find? (names key) = some line ∧
        behind '=' line = value := by
  rw [configProperty, findValue_eq]
  -- the loop takes the first line with the name, and an empty value counts as none
  cases (getlines '\n' content).find? (names key) with
  | none => simp
  | some line =>
    cases hline : behind '=' line with
    | nil => simp [hline]
    | cons c cs =>
      simp only [Option.map_some, hline, Option.getD_some, List.isEmpty_cons, Bool.false_eq_true,
        if_false, Option.some.injEq, exists_eq_left']
      constructor
      · rintro rfl
        exact ⟨List.cons_ne_nil _ _, rfl⟩
      · rintro ⟨-, rfl⟩
        rfl

theorem configProperty_eq_none_iff {content key : Text} :
    configProperty content key = none ↔
      ∀ line, (getlines '\n' content).find? (names key) = some line → behind '=' line = [] := by
  rw [Option.eq_none_iff_forall_ne_some]
  constructor
  · intro h line hfind
    by_contra hne
    exact h _ (configProperty_eq_some_iff.mpr ⟨hne, line, hfind, rfl⟩)
  · intro h value hvalue
    rcases configProperty_eq_some_iff.mp hvalue with ⟨hne, line, hfind, rfl⟩
    exact hne (h line hfind)

/-- A named line with a value has exactly the key before its `=`. -/
theorem eq_of_names {key line value : Text} (h : names key line = true)
    (hvalue : behind '=' line = value) (hne : value ≠ []) :
    line = key ++ '=' :: value ∧ '=' ∉ key := by
  have hkey : before '=' line = key := by
    unfold names at h
    simpa using (Bool.and_eq_true_iff.mp h).2
  have hmem : '=' ∈ line := by
    by_contra hmem
    exact hne (hvalue ▸ behind_of_not_mem hmem)
  rw [← hkey, ← hvalue]
  exact ⟨eq_before_append_behind hmem, not_mem_before line⟩

/-! ## When the clients agree -/

section Agreement

variable {content key value : Text}

/-- The values behind a plain line. -/
theorem getLast?_assigned {ls ls' : List Text} {line : Text} (h : assigned key line = some value) :
    ((ls ++ line :: ls').filterMap (assigned key)).getLast? =
      some (((ls'.filterMap (assigned key)).getLast?).getD value) := by
  rw [List.filterMap_append, List.filterMap_cons_some h, List.getLast?_append,
    List.getLast?_cons]
  rfl

theorem Unset.sameValue (h : Unset content key) : SameValue content key := by
  have hnil : (getlines '\n' content).filterMap (assigned key) = [] :=
    List.filterMap_eq_nil_iff.mpr h.unassigned
  rw [SameValue, parseProperties_eq, hnil, configProperty_eq_none_iff.mpr h.empty]
  rfl

theorem SetPlainly.configProperty_eq (h : SetPlainly content key value) :
    configProperty content key = some value := by
  rcases h.line with ⟨ls, ls', hlines, hfirst, -⟩
  rcases cut_append h.key_noEquals value with ⟨hbefore, hbehind⟩
  have hnames : names key (key ++ '=' :: value) = true := by
    rw [names, hbefore]
    simp
  refine configProperty_eq_some_iff.mpr ⟨h.value_ne_nil, _, ?_, hbehind⟩
  rw [List.find?_eq_some_iff_append]
  exact ⟨hnames, ls, ls', hlines, fun l hl => by simp [hfirst l hl]⟩

theorem SetPlainly.sameValue (h : SetPlainly content key value) : SameValue content key := by
  rcases h.line with ⟨ls, ls', hlines, -, hlast⟩
  have hplain := assigned_plain h.key_trimmed h.key_noComment h.key_noEquals h.value_ne_nil
    h.value_trimmed
  rw [SameValue, h.configProperty_eq, parseProperties_eq, hlines, getLast?_assigned hplain]
  cases hlater : (ls'.filterMap (assigned key)).getLast? with
  | none => rfl
  | some later => rw [hlast later hlater, Option.getD_some]

/-- A value that both clients have is set plainly. -/
theorem setPlainly_of_eq (hrust : parseProperties content key = some value)
    (hcpp : configProperty content key = some value) : SetPlainly content key value := by
  rcases configProperty_eq_some_iff.mp hcpp with ⟨hne, line, hfind, hbehind⟩
  rcases List.find?_eq_some_iff_append.mp hfind with ⟨hnames, ls, ls', hlines, hfirst⟩
  rcases eq_of_names hnames hbehind hne with ⟨rfl, hequals⟩
  rw [parseProperties_eq] at hrust
  rcases List.mem_filterMap.mp (List.mem_of_getLast? hrust) with ⟨last, -, hassigned⟩
  rcases trimmed_of_assigned hassigned with ⟨hkey, hcomment, hvalue⟩
  have hplain := assigned_plain hkey hcomment hequals hne hvalue
  refine ⟨⟨ls, ls', hlines, ?_, ?_⟩, hkey, hcomment, hequals, hne, hvalue⟩
  · intro l hl
    simpa using hfirst l hl
  · intro later hlater
    rw [hlines, getLast?_assigned hplain, hlater, Option.getD_some] at hrust
    exact Option.some.inj hrust

theorem sameValue_iff (content key : Text) :
    SameValue content key ↔ Unset content key ∨ ∃ value, SetPlainly content key value := by
  constructor
  · intro h
    cases hrust : parseProperties content key with
    | none =>
      left
      refine ⟨?_, configProperty_eq_none_iff.mp (h.symm.trans hrust)⟩
      rw [parseProperties_eq, List.getLast?_eq_none_iff] at hrust
      exact List.filterMap_eq_nil_iff.mp hrust
    | some value =>
      right
      exact ⟨value, setPlainly_of_eq hrust (h.symm.trans hrust)⟩
  · rintro (h | ⟨value, h⟩)
    · exact h.sameValue
    · exact h.sameValue

theorem SetPlainly.sameList_iff (h : SetPlainly content key value) :
    SameList content key ↔ ListedPlainly value := by
  have hrust : parseProperties content key = some value := h.sameValue.trans h.configProperty_eq
  rw [SameList, propertyList, hrust, h.configProperty_eq, Option.map_some, Option.map_some,
    Option.some.injEq]
  have hsplit := splitOn_eq_getlines ',' value
  simp only [h.value_ne_nil, false_or] at hsplit
  constructor
  · intro heq
    -- an item at the end that is empty is lost by the C++ client only
    have hlast : value.getLast? ≠ some ',' := by
      intro hlast
      rw [if_pos hlast] at hsplit
      have hlen := congrArg List.length heq
      rw [hsplit] at hlen
      simp at hlen
    refine ⟨?_, hlast⟩
    rw [if_neg hlast, List.append_nil] at hsplit
    rw [← hsplit] at heq
    exact List.map_inj_left.mp (heq.trans (List.map_id _).symm)
  · rintro ⟨hitems, hlast⟩
    rw [if_neg hlast, List.append_nil] at hsplit
    rw [← hsplit]
    exact (List.map_congr_left hitems).trans (List.map_id _)

/-- Without a value both clients take their default. -/
theorem Unset.sameList (h : Unset content key) : SameList content key := by
  have hcpp : configProperty content key = none := configProperty_eq_none_iff.mpr h.empty
  have hrust : parseProperties content key = none := h.sameValue.trans hcpp
  rw [SameList, propertyList, hrust, hcpp]
  rfl

end Agreement

/-- For every file and every key, the two clients have the same value if and only
if the key is unset or set plainly, and the same value and the same list if and only
if moreover the list is written plainly. -/
theorem clients_agree_iff (content key : Text) :
    (SameValue content key ↔ Unset content key ∨ ∃ value, SetPlainly content key value) ∧
    (SameValue content key ∧ SameList content key ↔
      Unset content key ∨ ∃ value, SetPlainly content key value ∧ ListedPlainly value) := by
  refine ⟨sameValue_iff content key, ?_⟩
  rw [sameValue_iff]
  constructor
  · rintro ⟨h | ⟨value, h⟩, hlist⟩
    · exact Or.inl h
    · exact Or.inr ⟨value, h, h.sameList_iff.mp hlist⟩
  · rintro (h | ⟨value, h, hlist⟩)
    · exact ⟨Or.inl h, h.sameList⟩
    · exact ⟨Or.inr ⟨value, h⟩, h.sameList_iff.mpr hlist⟩

/-- White space around `=`, a carriage return, a repeated key and a space in a list
are read differently. -/
theorem clients_disagree :
    ¬ SameValue "HOST = a\n".toList "HOST".toList ∧
    ¬ SameValue "HOST=a\r\n".toList "HOST".toList ∧
    ¬ SameValue "HOST=a\nHOST=b\n".toList "HOST".toList ∧
    ¬ SameList "COINPAIRS=A, B\n".toList "COINPAIRS".toList := by
  unfold SameValue SameList
  refine ⟨?_, ?_, ?_, ?_⟩ <;> decide

end TradingLatency.Properties
