/-
# StaticPreview.Proofs.Settings.Port -- a port is followed or refused

A whole number can be given as a port by the settings file, as such or written out, and by
a variable (`PortGiven`).  It is taken as a port exactly when it is one, and then as itself
(`toPort_eq_ok_iff`): nothing is cut off a number that is too large, and no sign is dropped.
An argument of the program is taken as a port under the same condition (`read_port_iff`), and
so it makes no difference where a port is given: the sources are taken for the settings for
which they would be taken were the number asked for at the start (`port_followed`).
-/
import StaticPreview.CommandLine
import StaticPreview.Proofs.Settings.Said

namespace StaticPreview.Settings

open StaticPreview.Number StaticPreview.Text

/-! ## Numbers taken as ports -/

/-- Whether a value is a whole number, as such or written out.  A zero with a minus sign is
none where it is written out. -/
inductive Value.IsNumber : Value → Int → Prop
  | integer (origin : Option String) (n : Int) : IsNumber (.scalar origin (.integer n)) n
  | written {origin : Option String} {s : String} {n : Int}
      (read : Integer64.read s.toList = .ok n) (unsigned : n = 0 → s.toList.head? ≠ some '-') :
      IsNumber (.scalar origin (.text s)) n

theorem isNumber_withOrigin {v : Value} {n : Int} (number : v.IsNumber n) (origin : String) :
    (v.withOrigin origin).IsNumber n := by
  cases number with
  | integer => exact .integer _ n
  | written read unsigned => exact .written read unsigned

theorem readUnsigned?_of_digits {s ds : List Char} (written : s = ds ∨ s = '+' :: ds)
    (filled : ds ≠ []) (digits : ∀ c ∈ ds, Decimal.isDigit c = true)
    (small : Decimal.value ds ≤ Integer64.maxUnsigned) :
    Value.readUnsigned? s = some (Decimal.value ds) := by
  have equation : Value.readUnsigned? s =
      if ds = [] ∨ !ds.all Decimal.isDigit ∨ Integer64.maxUnsigned < Decimal.value ds then none
      else some (Decimal.value ds) := by
    rcases written with rfl | rfl
    · obtain ⟨c, r, rfl⟩ := List.exists_cons_of_ne_nil filled
      have other : c ≠ '+' := by
        rintro rfl
        exact absurd (digits _ List.mem_cons_self) (by decide)
      unfold Value.readUnsigned?
      dsimp only
      split
      · rename_i sign
        exact absurd (List.cons.inj sign).1 other
      · rfl
    · rfl
  have all : ds.all Decimal.isDigit = true := List.all_eq_true.2 digits
  rw [equation, if_neg]
  simp [filled, all, small]

theorem readUnsigned?_minus (ds : List Char) : Value.readUnsigned? ('-' :: ds) = none := by
  simp only [Value.readUnsigned?]
  rw [if_pos]
  refine Or.inr (Or.inl ?_)
  rfl

theorem readUnsigned?_eq_some_iff {s : List Char} {n : Int} {m : Nat}
    (read : Integer64.read s = .ok n) (unsigned : n = 0 → s.head? ≠ some '-') :
    Value.readUnsigned? s = some m ↔ (m : Int) = n := by
  have bound := (Integer64.read_bounds read).2
  have room : (Integer64.maxValue : Int) ≤ Integer64.maxUnsigned := by decide
  cases Integer64.isNumeral_of_read read with
  | plain filled digits =>
      rw [readUnsigned?_of_digits (Or.inl rfl) filled digits (by omega), Option.some.injEq]
      omega
  | plus filled digits =>
      rw [readUnsigned?_of_digits (Or.inr rfl) filled digits (by omega), Option.some.injEq]
      omega
  | @minus ds filled digits =>
      have positive : Decimal.value ds ≠ 0 := by
        intro zero
        exact unsigned (by omega) rfl
      rw [readUnsigned?_minus]
      constructor
      · intro none
        cases none
      · intro same
        omega

theorem toUnsigned_eq_ok_iff {v : Value} {n : Int} (number : v.IsNumber n) {m : Nat} :
    v.toUnsigned = .ok m ↔ (m : Int) = n := by
  cases number with
  | integer origin =>
      rw [Value.toUnsigned]
      split
      · rw [Except.ok.injEq]
        omega
      · constructor
        · intro refused
          cases refused
        · intro same
          omega
  | @written origin s _ read unsigned =>
      have word (w : String) (c : Char) (first : w.toList.head? = some c)
          (letter : 0x41 ≤ c.toNat) : toLower s ≠ w := toLower_ne_of_read read first letter
      have noTrue : toLower s ∉ Value.trueWords := by
        simp only [Value.trueWords, List.mem_cons, List.not_mem_nil, or_false, not_or]
        exact ⟨word "true" 't' rfl (by decide), word "on" 'o' rfl (by decide),
          word "yes" 'y' rfl (by decide)⟩
      have noFalse : toLower s ∉ Value.falseWords := by
        simp only [Value.falseWords, List.mem_cons, List.not_mem_nil, or_false, not_or]
        exact ⟨word "false" 'f' rfl (by decide), word "off" 'o' rfl (by decide),
          word "no" 'n' rfl (by decide)⟩
      rw [← readUnsigned?_eq_some_iff read unsigned, Value.toUnsigned, if_neg noTrue,
        if_neg noFalse]
      cases Value.readUnsigned? s.toList <;> simp

/-- **A number is taken as a port exactly when it is one, and as no other.** -/
theorem toPort_eq_ok_iff {v : Value} {n : Int} (number : v.IsNumber n) {p : UInt16} :
    v.toPort = .ok p ↔ (p.toNat : Int) = n := by
  rw [Value.toPort, bind_eq_ok_iff]
  constructor
  · rintro ⟨m, taken, port⟩
    have same := (toUnsigned_eq_ok_iff number).1 taken
    split at port
    · rename_i small
      obtain rfl : UInt16.ofNat m = p := Except.ok.inj port
      rw [UInt16.toNat_ofNat_of_lt' small]
      exact same
    · cases port
  · intro same
    refine ⟨p.toNat, (toUnsigned_eq_ok_iff number).2 same, ?_⟩
    rw [if_pos p.toNat_lt, UInt16.ofNat_toNat]

/-! ## Arguments -/

theorem readPort_eq_ok_iff {s : String} {n : Int} (read : Integer64.read s.toList = .ok n)
    {p : UInt16} : CommandLine.readPort s = .ok p ↔ (p.toNat : Int) = n := by
  have small := p.toNat_lt
  rw [CommandLine.readPort, read]
  dsimp only
  split
  · rename_i range
    rw [Except.ok.injEq]
    constructor
    · rintro rfl
      have fits : n.toNat < UInt16.size := by
        rw [UInt16.size]
        omega
      rw [UInt16.toNat_ofNat_of_lt' fits]
      omega
    · rintro rfl
      simp
  · constructor
    · intro refused
      cases refused
    · intro same
      omega

theorem settle_valueArgument (argument : String) :
    (CommandLine.valueArgument {} argument >>= fun p =>
      CommandLine.settle p >>= fun p => .ok p.line) = CommandLine.assign {} argument .port := by
  show (CommandLine.settle { pending := some (.port, some argument), portSeen := true } >>=
    fun p => Except.ok p.line) = _
  rw [CommandLine.settle]
  simp only [List.not_mem_nil, if_false]
  cases CommandLine.assign {} argument .port <;> rfl

/-- A lone argument that is no option is the port. -/
theorem read_of_no_dash {argument : String} {c : Char} {r : List Char}
    (written : argument.toList = c :: r) (plain : c ≠ '-') :
    CommandLine.read [argument] = CommandLine.assign {} argument .port := by
  rw [← settle_valueArgument]
  simp only [CommandLine.read, CommandLine.readFrom, written, Bool.false_eq_true, if_false]
  split
  · rename_i dashes
    exact absurd (List.cons.inj dashes).1 plain
  · rename_i dashes
    exact absurd (List.cons.inj dashes).1 plain
  · rename_i dash
    exact absurd (List.cons.inj dash).1 plain
  · rfl

/-- A number with a minus sign is taken for an option that there is not. -/
theorem read_of_minus {argument : String} {d : Char} {r : List Char}
    (written : argument.toList = '-' :: d :: r) (digit : Decimal.isDigit d = true) :
    CommandLine.read [argument] = .error (.unknown (String.ofList ['-', d])) := by
  have ne (c : Char) (other : Decimal.isDigit c = false) : d ≠ c := by
    rintro rfl
    rw [other] at digit
    cases digit
  simp only [CommandLine.read, CommandLine.readFrom, written, Bool.false_eq_true, if_false]
  split
  · rename_i dashes
    exact absurd (List.cons.inj (List.cons.inj dashes).2).1 (ne '-' (by decide))
  · rename_i dashes
    exact absurd (List.cons.inj (List.cons.inj dashes).2).1 (ne '-' (by decide))
  · rename_i dash
    obtain ⟨rfl, rfl⟩ := List.cons.inj (List.cons.inj dash).2
    have refused : CommandLine.shortArgument {} d r =
        .error (.unknown (String.ofList ['-', d])) := by
      simp only [CommandLine.shortArgument, CommandLine.short?, ne 'r' (by decide),
        ne 'c' (by decide), ne 'h' (by decide), if_false]
    rw [refused]
    rfl
  · rename_i other
    exact absurd rfl (other _ _)

/-- **A number is accepted as an argument exactly when it is a port, and as no other.** -/
theorem read_port_iff {n : Int} (low : -(Integer64.minSize : Int) ≤ n)
    (high : n ≤ Integer64.maxValue) {p : UInt16} :
    (∃ line, CommandLine.read [String.ofList (Decimal.signed n)] = .ok line ∧
      line.port = some p) ↔ (p.toNat : Int) = n := by
  obtain ⟨d, r, written⟩ := List.exists_cons_of_ne_nil (Decimal.digits_ne_nil n.natAbs)
  have digit : Decimal.isDigit d = true := by
    apply Decimal.isDigit_of_mem_digits (n := n.natAbs)
    rw [written]
    exact List.mem_cons_self
  by_cases negative : n < 0
  · have minus : (String.ofList (Decimal.signed n)).toList = '-' :: d :: r := by
      rw [String.toList_ofList, Decimal.signed, if_pos negative, written]
    rw [read_of_minus minus digit]
    constructor
    · rintro ⟨line, refused, -⟩
      cases refused
    · intro same
      omega
  · have plain : (String.ofList (Decimal.signed n)).toList = d :: r := by
      rw [String.toList_ofList, Decimal.signed, if_neg negative, written]
    have noDash : d ≠ '-' := by
      rintro rfl
      exact absurd digit (by decide)
    have read : Integer64.read (String.ofList (Decimal.signed n)).toList = .ok n := by
      rw [String.toList_ofList]
      exact Integer64.read_signed low high
    rw [read_of_no_dash plain noDash, ← readPort_eq_ok_iff read, CommandLine.assign]
    cases CommandLine.readPort (String.ofList (Decimal.signed n)) <;> simp

/-! ## Sources -/

/-- Whether the settings file or a variable gives a whole number as the port, and no variable
after that says anything else. -/
inductive PortGiven (fs : FileSystem) (file : String) : List (String × String) → Int → Prop
  | inFile {environment : List (String × String)} {v : Value} {n : Int}
      (sets : FileSets fs file .port v) (number : v.IsNumber n)
      (silent : ∀ x ∈ Environment.collect environment, concerns x .port = false) :
      PortGiven fs file environment n
  | inVariable {before after : List (String × String)} {name text : String} {n : Int}
      (named : toLower name = Setting.port.variable_)
      (number : Integer64.read text.toList = .ok n)
      (later : ∀ x ∈ Environment.collect after, concerns x .port = false) :
      PortGiven fs file (before ++ (name, text) :: after) n

variable {fs : FileSystem} {file : String} {environment : List (String × String)} {n : Int}

/-- Where a number is given it stands for the port. -/
theorem exists_leaf?_of_portGiven (given : PortGiven fs file environment n)
    {fields : Fields Value} (fromFile : File.load fs file = .ok fields) :
    ∃ v, v.IsNumber n ∧
      (merge [defaults, fields, Environment.collect environment]).leaf? .port = some v := by
  cases given with
  | inFile sets number silent =>
      obtain ⟨others, origin, loaded, inside⟩ := exists_load_of_fileSets sets
      obtain rfl : others = fields := Except.ok.inj (loaded.symm.trans fromFile)
      exact ⟨_, isNumber_withOrigin number origin, leaf?_of_file inside silent⟩
  | @inVariable before after name text _ named number later =>
      refine ⟨_, isNumber_withOrigin ?_ Environment.origin,
        leaf?_of_variables (sets_collect named text before later) fields⟩
      rw [read_of_integer number]
      exact .integer none n

/-- A port that is asked for at the start makes a difference to the port only. -/
theorem apartAt_merge_of_asked {fields variables_ : Fields Value} {v : Value} {o : Overrides}
    (found : (merge [defaults, fields, variables_]).leaf? .port = some v) (unasked : o.port = none)
    (q : UInt16) :
    Value.ApartAt .port v (.ofScalar (.integer q.toNat))
      (merge [defaults, fields, variables_, o.fields])
      (merge [defaults, fields, variables_, { o with port := some q : Overrides }.fields]) := by
  obtain ⟨host, port, root⟩ := o
  obtain rfl : port = none := unasked
  have key : Setting.port.key = "server.port" := by decide
  have leaf : (Value.ofScalar (.integer q.toNat)).IsLeaf := by
    simp [Value.IsLeaf, Value.ofScalar]
  have hostSilent := concerns_overrides (o := { host := host }) (k := .port) rfl
  have rootSilent := concerns_overrides (o := { root := root }) (k := .port) rfl
  simp only [Overrides.fields, Option.map_none, Option.toList_none, List.append_nil,
    List.nil_append] at hostSilent rootSilent
  rw [merge_overrides, merge_overrides]
  simp only [Overrides.fields, Option.map_none, Option.map_some, Option.toList_none,
    Option.toList_some, List.append_nil, setAll_append, setAll_cons]
  refine apartAt_setAll rootSilent ?_
  rw [← key]
  exact apartAt_set_key_right (leaf?_setAll_of_silent hostSilent found) leaf

theorem take_port_eq_ok_iff {v : Value} (number : v.IsNumber n) {p : UInt16} :
    Setting.port.take v = .ok (some p) ↔ (p.toNat : Int) = n :=
  take_eq_ok_some_iff.trans (toPort_eq_ok_iff number)

variable {o : Overrides} {s : Settings}

/-- Sources that can be used say the number, and any port could be asked for instead. -/
theorem of_load_of_portGiven (given : PortGiven fs file environment n) (unasked : o.port = none)
    (loaded : load fs file environment o = .ok s) :
    (s.server.port.toNat : Int) = n ∧ ∀ q : UInt16,
      load fs file environment { o with port := some q } =
        .ok (Layer.settings (Function.update s.layer .port (some q))) := by
  obtain ⟨fields, fromFile, decoded⟩ := load_eq_ok_iff.1 loaded
  obtain ⟨v, number, found⟩ := exists_leaf?_of_portGiven given fromFile
  refine ⟨(take_port_eq_ok_iff number).1 (take_of_decode decoded (leaf?_of_unasked found unasked)),
    fun q => load_eq_ok_iff.2 ⟨fields, fromFile, ?_⟩⟩
  have asked : Setting.port.take (.ofScalar (.integer q.toNat)) = .ok (some q) :=
    take_eq_ok_some_iff.2 (toPort_of_holds ⟨none, rfl⟩)
  exact decode_of_apartAt (apartAt_merge_of_asked found unasked q) decoded asked

/-- Sources that can be used when a port is asked for can be used with the number when it is
a port. -/
theorem load_of_asked (given : PortGiven fs file environment n) (unasked : o.port = none)
    {q p : UInt16} (loaded : load fs file environment { o with port := some q } = .ok s)
    (isPort : (p.toNat : Int) = n) :
    load fs file environment o = .ok (Layer.settings (Function.update s.layer .port (some p))) := by
  obtain ⟨fields, fromFile, decoded⟩ := load_eq_ok_iff.1 loaded
  obtain ⟨v, number, found⟩ := exists_leaf?_of_portGiven given fromFile
  have apart := (apartAt_merge_of_asked found unasked q).symm
  have taken := (take_port_eq_ok_iff number).2 isPort
  exact load_eq_ok_iff.2 ⟨fields, fromFile, decode_of_apartAt apart decoded taken⟩

theorem port_settings_update (l : Layer) (p : UInt16) :
    (Layer.settings (Function.update l .port (some p))).server.port = p := by
  simp [Layer.settings]

theorem settings_update_port (s : Settings) :
    Layer.settings (Function.update s.layer .port (some s.server.port)) = s := by
  have same : Function.update s.layer .port (some s.server.port) = s.layer :=
    Function.update_eq_self Setting.port s.layer
  rw [same, settings_layer]

/-- **A number that is given as the port is followed as if it were asked for at the start**:
the sources are taken for settings exactly when it is a port, the settings have that port,
and the sources are taken for them with that port asked for.  So an argument that is the
number is accepted under the same condition, and a number that is no port is refused. -/
theorem port_followed (low : -(Integer64.minSize : Int) ≤ n) (high : n ≤ Integer64.maxValue)
    (given : PortGiven fs file environment n) {o : Overrides} (unasked : o.port = none) :
    (∀ s, load fs file environment o = .ok s ↔ (s.server.port.toNat : Int) = n ∧
        load fs file environment { o with port := some s.server.port } = .ok s) ∧
      (0 ≤ n → n ≤ 65535 →
        (∃ q s, load fs file environment { o with port := some q } = .ok s) →
          ∃ s, load fs file environment o = .ok s ∧ (s.server.port.toNat : Int) = n) ∧
      (n < 0 ∨ 65535 < n → ∃ fault, load fs file environment o = .error fault) ∧
      ∀ p : UInt16, (∃ line, CommandLine.read [String.ofList (Decimal.signed n)] = .ok line ∧
        line.port = some p) ↔ (p.toNat : Int) = n := by
  refine ⟨fun s => ⟨fun loaded => ?_, fun ⟨isPort, loaded⟩ => ?_⟩, fun positive small => ?_,
    fun outside => ?_, fun p => read_port_iff low high⟩
  · obtain ⟨isPort, asked⟩ := of_load_of_portGiven given unasked loaded
    have same := asked s.server.port
    rw [settings_update_port] at same
    exact ⟨isPort, same⟩
  · have followed := load_of_asked given unasked loaded isPort
    rwa [settings_update_port] at followed
  · rintro ⟨q, s, loaded⟩
    have fits : n.toNat < UInt16.size := by
      rw [UInt16.size]
      omega
    have isPort : ((UInt16.ofNat n.toNat).toNat : Int) = n := by
      rw [UInt16.toNat_ofNat_of_lt' fits]
      omega
    refine ⟨_, load_of_asked given unasked loaded isPort, ?_⟩
    rw [port_settings_update]
    exact isPort
  · cases loaded : load fs file environment o with
    | error fault => exact ⟨fault, rfl⟩
    | ok s =>
        have isPort := (of_load_of_portGiven given unasked loaded).1
        have small := s.server.port.toNat_lt
        omega

/-- A settings file whose port is the first number that is none. -/
def Example.withLargePort : FileSystem :=
  withOnly "preview.toml" (Bytes.ofString "[server]\nport = 65536\n")

/-- The greatest port in a variable, which wins over the file, and the number behind it in the
file, with no such variable. -/
theorem port_followed_limits :
    (∃ s, load Example.withLargePort "preview.toml" ([] ++ ("preview__SERVER__Port", "+065535") :: [])
        {} = .ok s ∧ (s.server.port.toNat : Int) = 65535) ∧
      ∃ fault, load Example.withLargePort "preview.toml" [("PORT", "80")] {} = .error fault := by
  have inVariable : PortGiven Example.withLargePort "preview.toml"
      ([] ++ ("preview__SERVER__Port", "+065535") :: []) 65535 :=
    .inVariable (by decide +kernel) (by decide +kernel) (by decide +kernel)
  have asked : load Example.withLargePort "preview.toml"
      ([] ++ ("preview__SERVER__Port", "+065535") :: []) { port := some 80 } =
      .ok { server := { port := 80 } } := by
    decide +kernel
  have written : File.Format.toml.fields? "[server]\nport = 65536\n".toList =
      some [("server", .table none [("port", .scalar none (.integer 65536))])] := by
    decide +kernel
  have sets := sets_section (k := .port) (v := .scalar none (.integer 65536))
    (by simp [Value.IsLeaf]) none
  have inFile : PortGiven Example.withLargePort "preview.toml" [("PORT", "80")] 65536 :=
    .inFile (.found (p := Bytes.ofString "/w/preview.toml") (by decide +kernel) (by decide +kernel)
      written sets) (.integer none 65536) (by decide +kernel)
  exact ⟨(port_followed (by decide) (by decide) inVariable rfl).2.1 (by decide) (by decide)
      ⟨80, _, asked⟩,
    (port_followed (by decide) (by decide) inFile (o := {}) rfl).2.2.1 (Or.inr (by decide))⟩

end StaticPreview.Settings
