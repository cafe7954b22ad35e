import FrameTap.Proofs.CommandLine.Occurrence
import FrameTap.Proofs.Endpoint.Canonical
import FrameTap.Proofs.Text.Cut
import FrameTap.Proofs.Text.Utf8

/-!
# Endpoints on the command line

A list of endpoints may be given in groups, each group behind its own option and in any of
the ways in which an option is written, or in the environment.  Other options may stand
between the groups.  All these ways mean the same list (`parse_endpoints`).

The texts of a group are joined by spaces, and no text of an endpoint has a space in it.  No
such text begins with a dash either, so none is taken for an option.
-/

namespace FrameTap.CommandLine

def Named.isMany : Named → Bool
  | .opt o => o.isMany
  | .switch _ => false

/-! ## A line of valid options -/

namespace Occurrence

/-- The option with its value is accepted where it stands alone. -/
def Acceptable (occ : Occurrence) : Prop := ∃ d, occ.enter {} = .ok d

def Valid (occ : Occurrence) : Prop := occ.WellFormed ∧ occ.Acceptable

/-- What the option makes of an empty draft. -/
def alone (occ : Occurrence) : Draft :=
  match occ.enter {} with
  | .ok d => d
  | .error _ => {}

def endpoints (occ : Occurrence) : List Endpoint := occ.alone.endpoint.getD []

end Occurrence

/-- Only options of several values are repeated. -/
def Unrepeated (occs : List Occurrence) : Prop :=
  occs.Pairwise fun occ occ' => occ.name = occ'.name → occ.name.isMany = true

instance (occs : List Occurrence) : Decidable (Unrepeated occs) :=
  inferInstanceAs (Decidable (List.Pairwise _ occs))

/-- What the options of a line make of an empty draft. -/
def together (occs : List Occurrence) : Draft := occs.foldr (fun occ d => occ.alone.merge d) {}

variable {occ : Occurrence} {occs : List Occurrence} {d : Draft}

theorem together_cons (occ : Occurrence) (occs : List Occurrence) :
    together (occ :: occs) = occ.alone.merge (together occs) := rfl

theorem alone_of_enter (h : occ.enter {} = .ok d) : occ.alone = d := by
  rw [Occurrence.alone, h]

theorem enter_alone (h : occ.Acceptable) : occ.enter {} = .ok occ.alone := by
  obtain ⟨d, hd⟩ := h
  rw [alone_of_enter hd, hd]

/-- The step: an option that is open adds to the draft what it makes alone. -/
theorem enter_of_open (h : occ.Acceptable)
    (hopen : d.holds occ.name = true → occ.name.isMany = true) :
    occ.enter d = .ok (d.merge occ.alone) := by
  have halone := enter_alone h
  cases occ with
  | apart o short values => exact Draft.enter_again halone hopen
  | equated o short value | attached o value =>
    have hvalue : ({} : Draft).enter o [value] = .ok _ := halone
    exact Draft.enter_again hvalue hopen
  | debug short =>
    refine Draft.enterDebug_again halone (Bool.eq_false_iff.2 fun hon => ?_)
    cases hopen hon

theorem holds_alone (h : occ.Acceptable) (n : Named) : occ.alone.holds n = (n == occ.name) := by
  have halone := enter_alone h
  have hholds : occ.alone.holds n = (({} : Draft).holds n || n == occ.name) := by
    cases occ with
    | apart o short values => exact (Draft.enter_eq_ok_iff.1 halone).2.holds n
    | equated o short value | attached o value =>
      have hvalue : ({} : Draft).enter o [value] = .ok _ := halone
      exact (Draft.enter_eq_ok_iff.1 hvalue).2.holds n
    | debug short => exact Draft.holds_enterDebug halone n
  rw [hholds, Draft.holds_empty, Bool.false_or]

/-- The run: the options are all accepted, and add up in the order of the line. -/
theorem foldlM_enter (hvalid : ∀ occ ∈ occs, occ.Acceptable) (hdistinct : Unrepeated occs)
    (hopen : ∀ occ ∈ occs, d.holds occ.name = true → occ.name.isMany = true) :
    occs.foldlM Occurrence.enter d = .ok (d.merge (together occs)) := by
  induction occs generalizing d with
  | nil => exact congrArg Except.ok d.merge_empty.symm
  | cons occ occs ih =>
    obtain ⟨hfirst, hrest⟩ := List.pairwise_cons.1 hdistinct
    obtain ⟨hocc, hoccs⟩ := List.forall_mem_cons.1 hvalid
    -- What is repeated behind the first occurrence is repeated in the whole line.
    have hopen₁ : ∀ occ' ∈ occs, (d.merge occ.alone).holds occ'.name = true →
        occ'.name.isMany = true := by
      intro occ' hocc' hheld
      rw [Draft.holds_merge, holds_alone hocc, Bool.or_eq_true] at hheld
      rcases hheld with hheld | hsame
      · exact hopen occ' (List.mem_cons_of_mem occ hocc') hheld
      · rw [eq_of_beq hsame]
        exact hfirst occ' hocc' (eq_of_beq hsame).symm
    rw [List.foldlM_cons, enter_of_open hocc (hopen occ List.mem_cons_self), ok_bind,
      ih hoccs hrest hopen₁, Draft.merge_assoc, together_cons]

theorem foldlM_enter_empty (hvalid : ∀ occ ∈ occs, occ.Acceptable) (hdistinct : Unrepeated occs) :
    occs.foldlM Occurrence.enter {} = .ok (together occs) := by
  rw [foldlM_enter hvalid hdistinct fun occ _ hheld => absurd hheld (by simp [Draft.holds_empty]),
    Draft.empty_merge]

theorem endpoint_together (occs : List Occurrence) :
    (together occs).endpoint.getD [] = occs.flatMap Occurrence.endpoints := by
  induction occs with
  | nil => rfl
  | cons occ occs ih => rw [together_cons, Draft.endpoint_merge, ih, List.flatMap_cons]; rfl

theorem holds_together (hvalid : ∀ occ ∈ occs, occ.Acceptable) (n : Named) :
    (together occs).holds n = occs.any (n == ·.name) := by
  induction occs with
  | nil => exact Draft.holds_empty n
  | cons occ occs ih =>
    obtain ⟨hocc, hoccs⟩ := List.forall_mem_cons.1 hvalid
    rw [together_cons, Draft.holds_merge, holds_alone hocc, ih hoccs, List.any_cons]

theorem endpoint_eq_none (h : d.holds (.opt .endpoint) = false) : d.endpoint = none :=
  Option.isNone_iff_eq_none.1 (Option.isSome_eq_false_iff.1 h)

theorem endpoints_of_ne (h : occ.Acceptable) (hname : occ.name ≠ .opt .endpoint) :
    occ.endpoints = [] := by
  have hnone : occ.alone.endpoint = none := by
    refine endpoint_eq_none ?_
    rw [holds_alone h]
    exact beq_eq_false_iff_ne.2 hname.symm
  rw [Occurrence.endpoints, hnone]
  rfl

/-! ## Groups of endpoints -/

/-- The texts of the endpoints with spaces between them. -/
def joined (es : List Endpoint) : Bytes :=
  Utf8.encode ([' '].intercalate (es.map Endpoint.display))

variable {es : List Endpoint}

theorem space_notMem_display {e : Endpoint} (h : e.Accepted) :
    0x20 ∉ Utf8.encode e.display := fun hm =>
  Endpoint.blank_notMem_display h (c := ' ') (by decide) (Utf8.mem_of_mem_encode (by decide) hm)

theorem cut_joined (hne : es ≠ []) (h : ∀ e ∈ es, e.Accepted) :
    Text.cut 0x20 (joined es) = es.map fun e => Utf8.encode e.display := by
  have hspace : ∀ piece ∈ es.map fun e => Utf8.encode e.display, (0x20 : UInt8) ∉ piece := by
    intro piece hpiece
    obtain ⟨e, he, rfl⟩ := List.mem_map.1 hpiece
    exact space_notMem_display (h e he)
  have hpieces : (es.map fun e => Utf8.encode e.display) ≠ [] := by simpa using hne
  rw [joined, Utf8.encode_intercalate, List.map_map]
  exact Text.cut_intercalate hspace hpieces

theorem head?_joined (hne : es ≠ []) : (joined es).head? = some 0x74 := by
  cases es with
  | nil => exact absurd rfl hne
  | cons e es =>
    cases es with
    | nil => rfl
    | cons e' es => rfl

theorem readEndpoint_display {e : Endpoint} (h : e.Accepted) :
    readEndpoint (Utf8.encode e.display) = .ok e := by
  rw [readEndpoint, textOf, Utf8.decode?_encode]
  show (Endpoint.parse e.display).mapError _ = _
  rw [Endpoint.parse_display h]
  rfl

theorem mapM_spread_joined {groups : List (List Endpoint)} (hne : ∀ group ∈ groups, group ≠ [])
    (h : ∀ e ∈ groups.flatten, e.Accepted) :
    (Draft.spread (groups.map joined)).mapM readEndpoint = .ok groups.flatten := by
  -- The spaces between the texts of a group are the only ones, so each text is a value.
  have hspread : Draft.spread (groups.map joined) =
      groups.flatten.map fun e => Utf8.encode e.display := by
    rw [Draft.spread, List.flatMap_map, List.map_flatten, List.flatMap_def]
    refine congrArg _ (List.map_congr_left fun group hgroup => ?_)
    exact cut_joined (hne group hgroup) fun e he =>
      h e (List.mem_flatten.2 ⟨group, hgroup, he⟩)
  rw [hspread]
  exact mapM_map_eq_ok fun e he => readEndpoint_display (h e he)

theorem enter_joined (d : Draft) (groups : List (List Endpoint)) (hgroups : groups ≠ [])
    (hne : ∀ group ∈ groups, group ≠ []) (h : ∀ e ∈ groups.flatten, e.Accepted) :
    d.enter .endpoint (groups.map joined) =
      .ok { d with endpoint := some (d.endpoint.getD [] ++ groups.flatten) } :=
  Draft.enter_eq_ok_iff.2
    ⟨by simpa using hgroups, .endpoint (mapM_spread_joined hne h)⟩

theorem enter_joined_one (d : Draft) (hne : es ≠ []) (h : ∀ e ∈ es, e.Accepted) :
    d.enter .endpoint [joined es] =
      .ok { d with endpoint := some (d.endpoint.getD [] ++ es) } := by
  have henter := enter_joined d [es] (List.cons_ne_nil es []) (by simpa using hne)
    (by simpa using h)
  rwa [List.map_singleton, List.flatten_singleton] at henter

theorem enterVariable_joined (hnone : d.endpoint = none) (hne : es ≠ [])
    (h : ∀ e ∈ es, e.Accepted) :
    d.enterVariable (some (joined es)) = .ok { d with endpoint := some es } := by
  have henter := enter_joined_one d hne h
  rw [hnone] at henter
  simp only [Draft.enterVariable, hnone]
  exact henter

theorem enterVariable_of_isSome (h : d.endpoint.isSome) (env? : Option Bytes) :
    d.enterVariable env? = .ok d := by
  obtain ⟨es, hes⟩ := Option.isSome_iff_exists.1 h
  simp only [Draft.enterVariable, hes]

theorem endpoints_settings (hd : d.endpoint = some es) (hne : es ≠ []) :
    d.settings.endpoints = .ok es := by
  have hendpoint : d.settings.endpoint = es := by
    rw [Draft.settings, hd]
    rfl
  rw [Settings.endpoints, hendpoint]
  exact if_neg (by simpa using hne)

/-! ## Lines with groups of endpoints -/

/-- A part of a command line that gives endpoints: a group of them, or some other option. -/
inductive Part where
  /-- Every argument behind the option holds endpoints, one or more with spaces between. -/
  | apart (short : Bool) (groups : List (List Endpoint))
  /-- The endpoints stand behind an equals sign, with spaces between. -/
  | equated (short : Bool) (es : List Endpoint)
  /-- The endpoints stand right behind the letter, with spaces between. -/
  | attached (es : List Endpoint)
  | other (occ : Occurrence)

namespace Part

def occurrence : Part → Occurrence
  | apart short groups => .apart .endpoint short (groups.map joined)
  | equated short es => .equated .endpoint short (joined es)
  | attached es => .attached .endpoint (joined es)
  | other occ => occ

def endpoints : Part → List Endpoint
  | apart _ groups => groups.flatten
  | equated _ es | attached es => es
  | other _ => []

/-- No argument and no option goes without endpoints, and any other option is valid. -/
def Proper : Part → Prop
  | apart _ groups => groups ≠ [] ∧ ∀ group ∈ groups, group ≠ []
  | equated _ es | attached es => es ≠ []
  | other occ => occ.Valid ∧ occ.name ≠ .opt .endpoint

variable {part : Part}

theorem wellFormed (h : part.Proper) : part.occurrence.WellFormed := by
  cases part with
  | apart short groups =>
    refine ⟨fun _ => rfl, by simpa using h.1, ?_, fun hmany => nomatch hmany⟩
    intro value hvalue hdash
    obtain ⟨group, hgroup, rfl⟩ := List.mem_map.1 hvalue
    rw [head?_joined (h.2 group hgroup)] at hdash
    cases hdash
  | equated short es => exact fun _ => rfl
  | attached es =>
    have hfirst := head?_joined h
    refine ⟨rfl, fun hnil => ?_, fun hequals => ?_⟩
    · rw [hnil] at hfirst
      cases hfirst
    · rw [hfirst] at hequals
      cases hequals
  | other occ => exact h.1.1

theorem enter_occurrence (h : part.Proper) (haccepted : ∀ e ∈ part.endpoints, e.Accepted) :
    part.occurrence.Acceptable ∧ part.occurrence.endpoints = part.endpoints := by
  -- A group alone leaves its own endpoints in the draft.
  have hgroup : ∀ {occ : Occurrence} {es : List Endpoint},
      occ.enter {} = .ok { endpoint := some es } → occ.Acceptable ∧ occ.endpoints = es :=
    fun {occ es} henter => ⟨⟨_, henter⟩, by rw [Occurrence.endpoints, alone_of_enter henter]; rfl⟩
  cases part with
  | apart short groups => exact hgroup (enter_joined {} _ h.1 h.2 haccepted)
  | equated short es => exact hgroup (enter_joined_one {} h haccepted)
  | attached es => exact hgroup (enter_joined_one {} h haccepted)
  | other occ => exact ⟨h.1.2, endpoints_of_ne h.1.2 h.2⟩

end Part

/-- Whatever the environment holds, the groups on the command line are the list. -/
theorem parse_parts {parts : List Part} {args : List Bytes} (hne : es ≠ [])
    (haccepted : ∀ e ∈ es, e.Accepted) (hproper : ∀ part ∈ parts, part.Proper)
    (hdistinct : Unrepeated (parts.map Part.occurrence))
    (hes : parts.flatMap Part.endpoints = es) (hargs : Written (parts.map Part.occurrence) args)
    (env? : Option Bytes) : ∃ s, parse args env? = .ok s ∧ s.endpoints = .ok es := by
  have hparts : ∀ part ∈ parts, part.occurrence.Acceptable ∧
      part.occurrence.endpoints = part.endpoints := fun part hpart =>
    Part.enter_occurrence (hproper part hpart) fun e he =>
      haccepted e (hes ▸ List.mem_flatMap.2 ⟨part, hpart, he⟩)
  have hwell : ∀ occ ∈ parts.map Part.occurrence, occ.WellFormed :=
    List.forall_mem_map.2 fun part hpart => Part.wellFormed (hproper part hpart)
  have hvalid : ∀ occ ∈ parts.map Part.occurrence, occ.Acceptable :=
    List.forall_mem_map.2 fun part hpart => (hparts part hpart).1
  have hendpoints : (parts.map Part.occurrence).flatMap Occurrence.endpoints = es := by
    rw [List.flatMap_map, ← hes, List.flatMap_def, List.flatMap_def]
    exact congrArg _ (List.map_congr_left fun part hpart => (hparts part hpart).2)
  have hendpoint := endpoint_together (parts.map Part.occurrence)
  rw [hendpoints] at hendpoint
  have hsome : (together (parts.map Part.occurrence)).endpoint = some es := by
    cases htogether : (together (parts.map Part.occurrence)).endpoint with
    | none =>
      rw [htogether] at hendpoint
      exact absurd hendpoint.symm hne
    | some es' =>
      rw [htogether] at hendpoint
      exact congrArg some hendpoint
  have henv := enterVariable_of_isSome (by rw [hsome]; rfl) env?
  exact ⟨_, parse_written hargs hwell (foldlM_enter_empty hvalid hdistinct) henv,
    endpoints_settings hsome hne⟩

/-- Where no option gives endpoints, those in the environment are the list. -/
theorem parse_variable {args : List Bytes} (hne : es ≠ []) (haccepted : ∀ e ∈ es, e.Accepted)
    (hoccs : ∀ occ ∈ occs, occ.Valid ∧ occ.name ≠ .opt .endpoint) (hdistinct : Unrepeated occs)
    (hargs : Written occs args) :
    ∃ s, parse args (some (joined es)) = .ok s ∧ s.endpoints = .ok es := by
  have hvalid : ∀ occ ∈ occs, occ.Acceptable := fun occ hocc => (hoccs occ hocc).1.2
  have hnone : (together occs).endpoint = none := by
    refine endpoint_eq_none ?_
    rw [holds_together hvalid, List.any_eq_false]
    intro occ hocc hsame
    exact (hoccs occ hocc).2 (eq_of_beq hsame).symm
  exact ⟨_, parse_written hargs (fun occ hocc => (hoccs occ hocc).1.1)
    (foldlM_enter_empty hvalid hdistinct) (enterVariable_joined hnone hne haccepted),
    endpoints_settings rfl hne⟩

/-- All ways to give a list of endpoints mean this list: in groups on the command line, whatever
options stand between the groups and whatever the environment holds, or in the environment
alone. -/
theorem parse_endpoints {es : List Endpoint} (hne : es ≠ []) (h : ∀ e ∈ es, e.Produced) :
    (∀ (parts : List Part) (args : List Bytes) (env? : Option Bytes),
      (∀ part ∈ parts, part.Proper) → Unrepeated (parts.map Part.occurrence) →
      parts.flatMap Part.endpoints = es → Written (parts.map Part.occurrence) args →
      ∃ s, parse args env? = .ok s ∧ s.endpoints = .ok es) ∧
    ∀ (others : List Occurrence) (args : List Bytes),
      (∀ occ ∈ others, occ.Valid ∧ occ.name ≠ .opt .endpoint) → Unrepeated others →
      Written others args →
      ∃ s, parse args (some (joined es)) = .ok s ∧ s.endpoints = .ok es := by
  have haccepted : ∀ e ∈ es, e.Accepted := fun e he => (h e he).accepted
  constructor
  · intro parts args env? hproper hdistinct hes hargs
    exact parse_parts hne haccepted hproper hdistinct hes hargs env?
  · intro others args hothers hdistinct hargs
    exact parse_variable hne haccepted hothers hdistinct hargs

/-- A line with every form of group and several other options, and the same list in the
environment. -/
theorem parse_endpoints_mixed :
    (∃ s, parse (["-de", "tcp://a:1", "tcp://[::1]:2 tcp://c:3", "--host=h", "-p", "7", "8",
        "-etcp://d:4 tcp://a:1", "--endpoint=tcp://e:5", "-fjson"].map (Utf8.encode ·.toList))
        (some []) = .ok s ∧
      s.endpoints = .ok [⟨['a'], 1⟩, ⟨"[::1]".toList, 2⟩, ⟨['c'], 3⟩, ⟨['d'], 4⟩, ⟨['a'], 1⟩,
        ⟨['e'], 5⟩]) ∧
    ∃ s, parse (["-d", "-p", "7"].map (Utf8.encode ·.toList))
        (some (Utf8.encode
          "tcp://a:1 tcp://[::1]:2 tcp://c:3 tcp://d:4 tcp://a:1 tcp://e:5".toList)) = .ok s ∧
      s.endpoints = .ok [⟨['a'], 1⟩, ⟨"[::1]".toList, 2⟩, ⟨['c'], 3⟩, ⟨['d'], 4⟩, ⟨['a'], 1⟩,
        ⟨['e'], 5⟩] := by
  have hproduced : ∀ e ∈ ([⟨['a'], 1⟩, ⟨"[::1]".toList, 2⟩, ⟨['c'], 3⟩, ⟨['d'], 4⟩, ⟨['a'], 1⟩,
      ⟨['e'], 5⟩] : List Endpoint), e.Produced := by
    simp only [List.forall_mem_cons, List.not_mem_nil, false_implies, implies_true, and_true]
    exact ⟨.inl ⟨"tcp://a:1".toList, rfl⟩, .inl ⟨"tcp://[::1]:2".toList, rfl⟩,
      .inl ⟨"tcp://c:3".toList, rfl⟩, .inl ⟨"tcp://d:4".toList, rfl⟩,
      .inl ⟨"tcp://a:1".toList, rfl⟩, .inl ⟨"tcp://e:5".toList, rfl⟩⟩
  have hdebug : (Occurrence.debug true).Valid := ⟨trivial, _, rfl⟩
  have hhost : (Occurrence.equated .host false (Utf8.encode ['h'])).Valid :=
    ⟨nofun, _, rfl⟩
  have hports : (Occurrence.apart .port true [Utf8.encode ['7'], Utf8.encode ['8']]).Valid :=
    ⟨by decide, _, rfl⟩
  have hformat : (Occurrence.attached .format (Utf8.encode "json".toList)).Valid :=
    ⟨by decide, { format := some .json }, rfl⟩
  have hport : (Occurrence.apart .port true [Utf8.encode ['7']]).Valid := ⟨by decide, _, rfl⟩
  obtain ⟨hline, hvariable⟩ := parse_endpoints (List.cons_ne_nil _ _) hproduced
  constructor
  · refine hline [.other (.debug true),
      .apart true [[⟨['a'], 1⟩], [⟨"[::1]".toList, 2⟩, ⟨['c'], 3⟩]],
      .other (.equated .host false (Utf8.encode ['h'])),
      .other (.apart .port true [Utf8.encode ['7'], Utf8.encode ['8']]),
      .attached [⟨['d'], 4⟩, ⟨['a'], 1⟩], .equated false [⟨['e'], 5⟩],
      .other (.attached .format (Utf8.encode "json".toList))] _ _ ?_ (by decide) rfl ?_
    · simp only [List.forall_mem_cons, List.not_mem_nil, false_implies, implies_true, and_true]
      exact ⟨⟨hdebug, nofun⟩, ⟨nofun, by decide⟩, ⟨hhost, nofun⟩, ⟨hports, nofun⟩, nofun, nofun,
        hformat, nofun⟩
    · exact .bundled _ rfl (.cons _ (.cons _ (.cons _ (.cons _ (.cons _ .nil)))))
  · refine hvariable [.debug true, .apart .port true [Utf8.encode ['7']]] _ ?_ (by decide) ?_
    · simp only [List.forall_mem_cons, List.not_mem_nil, false_implies, implies_true, and_true]
      exact ⟨⟨hdebug, nofun⟩, hport, nofun⟩
    · exact .cons _ (.cons _ .nil)

end FrameTap.CommandLine
