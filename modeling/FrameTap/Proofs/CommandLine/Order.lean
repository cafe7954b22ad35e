import FrameTap.Proofs.CommandLine.Sources

/-!
# The order of options

An option that takes several values collects the arguments behind it, so its place on the command
line might decide which values are its own.  It does not: where each option of a line is complete,
the next option ends it, and another order of the options has the same outcome
(`parse_reordered`), as long as the options for endpoints keep their order, and so do those for
ports.

The reason is that a line adds up what its options say, each for itself (`together`), and that
what it says under one name comes from the options of that name alone (`only_together`).  Another
order leaves these as they were: they keep their order, or there is one of them at most.
-/

namespace FrameTap.CommandLine

/-! ## Complete options -/

/-- A value that the option takes; where it takes several, each of the texts between the spaces
is one. -/
def Opt.Takes : Opt → Bytes → Prop
  | .endpoint, value => ∀ piece ∈ Text.cut 0x20 value, ∃ e, readEndpoint piece = .ok e
  | .port, value => ∀ piece ∈ Text.cut 0x20 value, ∃ port, readPort piece = .ok port
  | .host, value => ∃ t, textOf value = .ok t
  | .format, value => ∃ format, readFormat value = .ok format
  | .pollInterval, value => ∃ ms, readPollMillis value = .ok ms

instance : (o : Opt) → (value : Bytes) → Decidable (o.Takes value)
  | .endpoint, value => inferInstanceAs (Decidable (∀ piece ∈ Text.cut 0x20 value, _))
  | .port, value => inferInstanceAs (Decidable (∀ piece ∈ Text.cut 0x20 value, _))
  | .host, value => inferInstanceAs (Decidable (∃ t, textOf value = .ok t))
  | .format, value => inferInstanceAs (Decidable (∃ format, readFormat value = .ok format))
  | .pollInterval, value => inferInstanceAs (Decidable (∃ ms, readPollMillis value = .ok ms))

namespace Occurrence

/-- The values that are written behind the option. -/
def values : Occurrence → List Bytes
  | apart _ _ values => values
  | equated _ _ value | attached _ value => [value]
  | debug _ => []

/-- The values are some that the option takes. -/
def Fitting (occ : Occurrence) : Prop :=
  match occ.name with
  | .opt o => ∀ value ∈ occ.values, o.Takes value
  | .switch _ => True

instance : (occ : Occurrence) → Decidable occ.Fitting
  | apart o _ values => inferInstanceAs (Decidable (∀ value ∈ values, o.Takes value))
  | equated o _ value => inferInstanceAs (Decidable (∀ v ∈ [value], o.Takes v))
  | attached o value => inferInstanceAs (Decidable (∀ v ∈ [value], o.Takes v))
  | debug _ => inferInstanceAs (Decidable True)

/-- The option is written as it can be, with values that it takes. -/
def Complete (occ : Occurrence) : Prop := occ.WellFormed ∧ occ.Fitting

instance (occ : Occurrence) : Decidable occ.Complete :=
  inferInstanceAs (Decidable (_ ∧ _))

end Occurrence

variable {occ : Occurrence} {occs occs' : List Occurrence} {o : Opt} {value : Bytes}
  {values : List Bytes} {d : Draft}

theorem exists_enter_of_takes (hne : values ≠ []) (h : ∀ value ∈ values, o.Takes value) :
    ∃ d, ({} : Draft).enter o values = .ok d := by
  obtain ⟨value, rest, rfl⟩ := List.exists_cons_of_ne_nil hne
  have hpieces {P : Bytes → Prop}
      (hcut : ∀ v ∈ value :: rest, ∀ piece ∈ Text.cut 0x20 v, P piece) :
      ∀ piece ∈ Draft.spread (value :: rest), P piece := by
    intro piece hpiece
    obtain ⟨v, hv, hmem⟩ := List.mem_flatMap.1 hpiece
    exact hcut v hv piece hmem
  have hfirst := h value List.mem_cons_self
  cases o with
  | endpoint =>
    obtain ⟨es, hes⟩ := exists_mapM_eq_ok (hpieces h)
    exact ⟨_, (Draft.Entered.endpoint hes).enter_eq⟩
  | port =>
    obtain ⟨ports, hports⟩ := exists_mapM_eq_ok (hpieces h)
    exact ⟨_, (Draft.Entered.port hports).enter_eq⟩
  | host =>
    obtain ⟨t, ht⟩ := hfirst
    exact ⟨_, (Draft.Entered.host (d := {}) nofun ht).enter_eq⟩
  | format =>
    obtain ⟨format, hformat⟩ := hfirst
    exact ⟨_, (Draft.Entered.format (d := {}) nofun hformat).enter_eq⟩
  | pollInterval =>
    obtain ⟨ms, hms⟩ := hfirst
    exact ⟨_, (Draft.Entered.pollInterval (d := {}) nofun hms).enter_eq⟩

theorem Occurrence.Complete.acceptable (h : occ.Complete) : occ.Acceptable := by
  obtain ⟨hwell, hfitting⟩ := h
  cases occ with
  | apart o short values => exact exists_enter_of_takes hwell.2.1 hfitting
  | equated o short value => exact exists_enter_of_takes (List.cons_ne_nil value []) hfitting
  | attached o value => exact exists_enter_of_takes (List.cons_ne_nil value []) hfitting
  | debug short => exact ⟨_, rfl⟩

/-! ## What a line says under one name -/

/-- The options of a line that have this name, in their order. -/
def named (n : Named) (occs : List Occurrence) : List Occurrence := occs.filter (·.name = n)

/-- The values that a line gives for an option, in their order. -/
def said (o : Opt) (occs : List Occurrence) : List Bytes :=
  (named (.opt o) occs).flatMap Occurrence.values

theorem named_cons (n : Named) (occ : Occurrence) (occs : List Occurrence) :
    named n (occ :: occs) = if occ.name = n then occ :: named n occs else named n occs := by
  simp [named, List.filter_cons]

theorem entered_alone (h : occ.Acceptable) (hname : occ.name = .opt o) :
    Draft.Entered {} o occ.values occ.alone := by
  have halone := enter_alone h
  cases occ with
  | apart o short values =>
    cases hname
    exact (Draft.enter_eq_ok_iff.1 halone).2
  | equated o short value | attached o value =>
    cases hname
    have hvalue : ({} : Draft).enter o [value] = .ok _ := halone
    exact (Draft.enter_eq_ok_iff.1 hvalue).2
  | debug short => cases hname

theorem only_alone (h : occ.Acceptable) (n : Named) :
    occ.alone.only n = if occ.name = n then occ.alone else {} := by
  simp only [eq_comm (b := n)]
  cases hname : occ.name with
  | opt o => exact (entered_alone h hname).only n
  | switch s =>
    cases occ with
    | debug short =>
      cases hname
      exact Draft.only_enterDebug (enter_alone h) n
    | apart | equated | attached => cases hname

theorem only_together (hvalid : ∀ occ ∈ occs, occ.Acceptable) (n : Named) :
    (together occs).only n = together (named n occs) := by
  induction occs with
  | nil => exact Draft.only_empty n
  | cons occ occs ih =>
    obtain ⟨hocc, hoccs⟩ := List.forall_mem_cons.1 hvalid
    rw [together_cons, Draft.only_merge, only_alone hocc, ih hoccs, named_cons]
    by_cases hname : occ.name = n
    · rw [if_pos hname, if_pos hname, together_cons]
    · rw [if_neg hname, if_neg hname, Draft.empty_merge]

/-- Occurrences of one option enter what one of them does with the values of all. -/
theorem entered_together (hvalid : ∀ occ ∈ occs, occ.Acceptable)
    (hname : ∀ occ ∈ occs, occ.name = .opt o) (hmany : o.isMany = true) (hne : occs ≠ []) :
    Draft.Entered {} o (occs.flatMap Occurrence.values) (together occs) := by
  induction occs with
  | nil => exact absurd rfl hne
  | cons occ occs ih =>
    obtain ⟨hocc, hoccs⟩ := List.forall_mem_cons.1 hvalid
    obtain ⟨hfirst, hrest⟩ := List.forall_mem_cons.1 hname
    have hentered := entered_alone hocc hfirst
    by_cases hlast : occs = []
    · subst hlast
      rw [together_cons, List.flatMap_singleton]
      exact (Draft.merge_empty occ.alone).symm ▸ hentered
    · rw [together_cons, List.flatMap_cons]
      exact hentered.append (ih hoccs hrest hlast) hmany

/-! ## Another order -/

/-- The same options in another order, in which those for endpoints keep their own, and so do
those for ports. -/
structure Reordered (occs occs' : List Occurrence) : Prop where
  perm : occs.Perm occs'
  endpoints : named (.opt .endpoint) occs = named (.opt .endpoint) occs'
  ports : named (.opt .port) occs = named (.opt .port) occs'

theorem eq_of_perm_of_pairwise_false {α : Type} {l l' : List α} (h : l.Perm l')
    (hsingle : l.Pairwise fun _ _ => False) : l = l' := by
  cases l with
  | nil => exact h.nil_eq
  | cons a l =>
    cases l with
    | nil => exact (List.perm_singleton.1 h.symm).symm
    | cons b l => exact ((List.pairwise_cons.1 hsingle).1 b List.mem_cons_self).elim

/-- What may be repeated keeps its order, and of anything else there is one at most. -/
theorem Reordered.named_eq (h : Reordered occs occs') (hdistinct : Unrepeated occs) (n : Named) :
    named n occs = named n occs' := by
  by_cases hmany : n.isMany = true
  · rcases n with (_ | _ | _ | _ | _) | s
    · exact h.endpoints
    · cases hmany
    · exact h.ports
    · cases hmany
    · cases hmany
    · cases hmany
  · refine eq_of_perm_of_pairwise_false (h.perm.filter _) ?_
    refine (hdistinct.filter _).imp_of_mem fun {occ occ'} hocc hocc' hsame => hmany ?_
    have hname : occ.name = n := by simpa using (List.mem_filter.1 hocc).2
    have hname' : occ'.name = n := by simpa using (List.mem_filter.1 hocc').2
    rw [← hname]
    exact hsame (hname.trans hname'.symm)

theorem Reordered.unrepeated (h : Reordered occs occs') (hdistinct : Unrepeated occs) :
    Unrepeated occs' :=
  (h.perm.pairwise_iff fun hsame hname => hname ▸ hsame hname.symm).1 hdistinct

theorem together_reordered (h : Reordered occs occs') (hdistinct : Unrepeated occs)
    (hvalid : ∀ occ ∈ occs, occ.Acceptable) : together occs' = together occs := by
  have hvalid' : ∀ occ ∈ occs', occ.Acceptable := fun occ hocc =>
    hvalid occ (h.perm.mem_iff.2 hocc)
  refine Draft.eq_of_only fun n => ?_
  rw [only_together hvalid', only_together hvalid, h.named_eq hdistinct]

/-! ## The outcome -/

theorem entered_said (hvalid : ∀ occ ∈ occs, occ.Acceptable) (hmany : o.isMany = true)
    (hne : named (.opt o) occs ≠ []) :
    Draft.Entered {} o (said o occs) ((together occs).only (.opt o)) := by
  have hmem {occ : Occurrence} (hocc : occ ∈ named (.opt o) occs) :
      occ ∈ occs ∧ occ.name = .opt o := by
    simpa [named] using hocc
  rw [only_together hvalid]
  exact entered_together (fun occ hocc => hvalid occ (hmem hocc).1)
    (fun occ hocc => (hmem hocc).2) hmany hne

theorem endpoint_eq_some (hvalid : ∀ occ ∈ occs, occ.Acceptable)
    (hne : named (.opt .endpoint) occs ≠ []) :
    ∃ es, (together occs).endpoint = some es ∧
      (Draft.spread (said .endpoint occs)).mapM readEndpoint = .ok es := by
  have hentered := entered_said hvalid rfl hne
  generalize hd : (together occs).only (.opt .endpoint) = d at hentered
  cases hentered with
  | endpoint hes => exact ⟨_, congrArg Draft.endpoint hd, hes⟩

theorem port_eq_some (hvalid : ∀ occ ∈ occs, occ.Acceptable)
    (hne : named (.opt .port) occs ≠ []) :
    ∃ ports, (together occs).port = some ports ∧
      (Draft.spread (said .port occs)).mapM readPort = .ok ports := by
  have hentered := entered_said hvalid rfl hne
  generalize hd : (together occs).only (.opt .port) = d at hentered
  cases hentered with
  | port hports => exact ⟨_, congrArg Draft.port hd, hports⟩

theorem endpoint_eq_none_of_named (hvalid : ∀ occ ∈ occs, occ.Acceptable)
    (hnil : named (.opt .endpoint) occs = []) : (together occs).endpoint = none := by
  have honly := only_together hvalid (.opt .endpoint)
  rw [hnil] at honly
  exact congrArg Draft.endpoint honly

theorem exists_enterVariable_iff (hnone : d.endpoint = none) :
    (∃ d', d.enterVariable (some value) = .ok d') ↔ ∃ es, Lists value es := by
  constructor
  · rintro ⟨d', h⟩
    obtain ⟨es, -, hes, -⟩ := lists_of_enterVariable hnone h
    exact ⟨es, hes⟩
  · rintro ⟨es, hes⟩
    have hread : (Draft.spread [value]).mapM readEndpoint = .ok es := by
      rw [Draft.spread, List.flatMap_singleton]
      exact mapM_eq_ok_iff.2 (hes.imp fun _ _ => readEndpoint_eq_ok_iff.2)
    simp only [Draft.enterVariable, hnone]
    exact ⟨_, (Draft.Entered.endpoint hread).enter_eq⟩

/-- The variable changes the endpoints only. -/
theorem port_of_enterVariable {d' : Draft} {env? : Option Bytes}
    (h : d.enterVariable env? = .ok d') : d'.port = d.port := by
  rcases enterVariable_cases h with rfl | ⟨value, -, -, henter⟩
  · rfl
  · obtain ⟨-, hentered⟩ := Draft.enter_eq_ok_iff.1 henter
    cases hentered with
    | endpoint => rfl

theorem exists_stop_iff {x : Except Misuse Draft} :
    (∃ stop, (Reading.misused x >>= fun d => Except.ok d.settings) = .error stop) ↔
      ¬ ∃ d, x = .ok d := by
  cases x with
  | ok d => exact iff_of_false nofun fun h => h ⟨d, rfl⟩
  | error m => exact iff_of_true ⟨.misuse m, rfl⟩ nofun

section Line

variable {args : List Bytes} {env? : Option Bytes} {s : Settings}
  (hcomplete : ∀ occ ∈ occs, occ.Complete) (hdistinct : Unrepeated occs)
  (hargs : Written occs args)

include hcomplete hdistinct hargs

/-- The environment is all that a line of complete options can fail over. -/
theorem parse_complete (env? : Option Bytes) :
    parse args env? =
      Reading.misused ((together occs).enterVariable env?) >>= fun d => .ok d.settings :=
  parse_written_eq hargs (fun occ hocc => (hcomplete occ hocc).1)
    (foldlM_enter_empty (fun occ hocc => (hcomplete occ hocc).acceptable) hdistinct) env?

theorem parse_complete_eq_ok (h : parse args env? = .ok s) :
    ∃ d, (together occs).enterVariable env? = .ok d ∧ s = d.settings := by
  rw [parse_complete hcomplete hdistinct hargs env?] at h
  obtain ⟨d, hd, h⟩ := bind_eq_ok_iff.1 h
  cases h
  exact ⟨d, Reading.misused_eq_ok_iff.1 hd, rfl⟩

/-- The variable is not looked at where an option gives endpoints. -/
theorem endpoint_of_parse_complete (h : parse args env? = .ok s)
    (hne : named (.opt .endpoint) occs ≠ []) :
    (Draft.spread (said .endpoint occs)).mapM readEndpoint = .ok s.endpoint := by
  obtain ⟨d, hd, rfl⟩ := parse_complete_eq_ok hcomplete hdistinct hargs h
  obtain ⟨es, hes, hread⟩ :=
    endpoint_eq_some (fun occ hocc => (hcomplete occ hocc).acceptable) hne
  rw [enterVariable_of_isSome (by rw [hes]; rfl)] at hd
  cases hd
  rw [Draft.settings, hes]
  exact hread

theorem port_of_parse_complete (h : parse args env? = .ok s)
    (hne : named (.opt .port) occs ≠ []) :
    (Draft.spread (said .port occs)).mapM readPort = .ok s.port := by
  obtain ⟨d, hd, rfl⟩ := parse_complete_eq_ok hcomplete hdistinct hargs h
  obtain ⟨ports, hports, hread⟩ :=
    port_eq_some (fun occ hocc => (hcomplete occ hocc).acceptable) hne
  rw [Draft.settings, port_of_enterVariable hd, hports]
  exact hread

theorem parse_complete_error_iff :
    (∃ stop, parse args env? = .error stop) ↔
      named (.opt .endpoint) occs = [] ∧ ∃ value, env? = some value ∧ ¬ ∃ es, Lists value es := by
  have hvalid : ∀ occ ∈ occs, occ.Acceptable := fun occ hocc => (hcomplete occ hocc).acceptable
  rw [parse_complete hcomplete hdistinct hargs env?, exists_stop_iff]
  by_cases hnil : named (.opt .endpoint) occs = []
  · have hnone := endpoint_eq_none_of_named hvalid hnil
    rw [and_iff_right hnil]
    cases env? with
    | none =>
      refine iff_of_false (fun h => h ⟨together occs, ?_⟩) ?_
      · simp only [Draft.enterVariable, hnone]
      · rintro ⟨value, hvalue, -⟩
        cases hvalue
    | some value => simp [exists_enterVariable_iff hnone]
  · obtain ⟨es, hes, -⟩ := endpoint_eq_some hvalid hnil
    refine iff_of_false (fun h => h ⟨together occs, ?_⟩) fun h => hnil h.1
    exact enterVariable_of_isSome (by rw [hes]; rfl) env?

end Line

/-- A line of complete options has the same outcome in another order of the options, provided that
those for endpoints keep their order, and those for ports.  Settings have the endpoints and the
ports that the values say, in the order of the line, where it has options for them.  There is an
error exactly where no option gives endpoints and the variable holds something that is no list of
them. -/
theorem parse_reordered {args args' : List Bytes} (hcomplete : ∀ occ ∈ occs, occ.Complete)
    (hdistinct : Unrepeated occs) (horder : Reordered occs occs') (hargs : Written occs args)
    (hargs' : Written occs' args') (env? : Option Bytes) :
    parse args' env? = parse args env? ∧
    (∀ s, parse args env? = .ok s →
      (named (.opt .endpoint) occs ≠ [] →
        List.Forall₂ (fun piece e => ∃ t, piece = Utf8.encode t ∧ Endpoint.parse t = .ok e)
          (Draft.spread (said .endpoint occs)) s.endpoint) ∧
      (named (.opt .port) occs ≠ [] →
        List.Forall₂ (fun piece port => readPort piece = .ok port)
          (Draft.spread (said .port occs)) s.port)) ∧
    ((∃ stop, parse args env? = .error stop) ↔
      named (.opt .endpoint) occs = [] ∧ ∃ value, env? = some value ∧ ¬ ∃ es, Lists value es) := by
  refine ⟨?_, fun s hs => ⟨fun hne => ?_, fun hne => ?_⟩, ?_⟩
  · have hcomplete' : ∀ occ ∈ occs', occ.Complete := fun occ hocc =>
      hcomplete occ (horder.perm.mem_iff.2 hocc)
    rw [parse_complete hcomplete hdistinct hargs env?,
      parse_complete hcomplete' (horder.unrepeated hdistinct) hargs' env?,
      together_reordered horder hdistinct fun occ hocc => (hcomplete occ hocc).acceptable]
  · have hread := endpoint_of_parse_complete hcomplete hdistinct hargs hs hne
    exact (mapM_eq_ok_iff.1 hread).imp fun _ _ => readEndpoint_eq_ok_iff.1
  · exact mapM_eq_ok_iff.1 (port_of_parse_complete hcomplete hdistinct hargs hs hne)
  · exact parse_complete_error_iff hcomplete hdistinct hargs

/-- A line with every form of option and with endpoints and ports in two places, in two orders,
where the variable holds no text; and a line without an endpoint, under an empty variable. -/
theorem parse_reordered_mixed :
    let first := ["-de", "tcp://a:1", "tcp://b:2 tcp://c:3", "--port=7", "--host", "h",
      "-p", "8", "9 10", "-etcp://d:4", "-fjson", "--poll-interval-ms=5"]
    let second := ["--poll-interval-ms=5", "-e", "tcp://a:1", "tcp://b:2 tcp://c:3", "-fjson",
      "-etcp://d:4", "--port=7", "-p", "8", "9 10", "-d", "--host", "h"]
    (∃ s, parse (first.map (Utf8.encode ·.toList)) (some [0xFF]) = .ok s ∧
      parse (second.map (Utf8.encode ·.toList)) (some [0xFF]) = .ok s ∧
      s.endpoint = [⟨['a'], 1⟩, ⟨['b'], 2⟩, ⟨['c'], 3⟩, ⟨['d'], 4⟩] ∧ s.port = [7, 8, 9, 10]) ∧
    ∃ stop, parse (["-d", "-p", "7"].map (Utf8.encode ·.toList)) (some []) = .error stop ∧
      parse (["-p", "7", "-d"].map (Utf8.encode ·.toList)) (some []) = .error stop := by
  intro first second
  let given : Occurrence := .apart .endpoint true
    [Utf8.encode "tcp://a:1".toList, Utf8.encode "tcp://b:2 tcp://c:3".toList]
  let given' : Occurrence := .attached .endpoint (Utf8.encode "tcp://d:4".toList)
  let port : Occurrence := .equated .port false (Utf8.encode ['7'])
  let port' : Occurrence := .apart .port true [Utf8.encode ['8'], Utf8.encode "9 10".toList]
  let host : Occurrence := .apart .host false [Utf8.encode ['h']]
  let format : Occurrence := .attached .format (Utf8.encode "json".toList)
  let interval : Occurrence := .equated .pollInterval false (Utf8.encode ['5'])
  have hfirst : Written [.debug true, given, port, host, port', given', format, interval]
      (first.map (Utf8.encode ·.toList)) :=
    .bundled _ rfl (.cons _ (.cons _ (.cons _ (.cons _ (.cons _ (.cons _ .nil))))))
  have hsecond : Written [interval, given, format, given', port, port', .debug true, host]
      (second.map (Utf8.encode ·.toList)) :=
    .cons _ (.cons _ (.cons _ (.cons _ (.cons _ (.cons _ (.cons _ (.cons _ .nil)))))))
  have horder : Reordered [.debug true, given, port, host, port', given', format, interval]
      [interval, given, format, given', port, port', .debug true, host] :=
    ⟨by decide, by decide, by decide⟩
  have hcomplete : ∀ occ ∈ [.debug true, given, port, host, port', given', format, interval],
      occ.Complete := by decide +kernel
  have hrefused : parse (["-d", "-p", "7"].map (Utf8.encode ·.toList)) (some []) =
      .error (.misuse (.invalidValue .endpoint [] (.endpoint ⟨[], .scheme⟩))) := by rfl
  constructor
  · have hparse : parse (first.map (Utf8.encode ·.toList)) (some [0xFF]) = .ok {
        endpoint := [⟨['a'], 1⟩, ⟨['b'], 2⟩, ⟨['c'], 3⟩, ⟨['d'], 4⟩]
        host := ['h']
        port := [7, 8, 9, 10]
        format := .json
        pollMillis := 5
        debug := true } := by rfl
    have hsame := (parse_reordered hcomplete (by decide) horder hfirst hsecond (some [0xFF])).1
    exact ⟨_, hparse, hsame.trans hparse, rfl, rfl⟩
  · have hswitched : Reordered [.debug true, .apart .port true [Utf8.encode ['7']]]
        [.apart .port true [Utf8.encode ['7']], .debug true] :=
      ⟨by decide, by decide, by decide⟩
    have hsame := (parse_reordered (by decide) (by decide) hswitched
      (.cons _ (.cons _ .nil)) (.cons _ (.cons _ .nil)) (some [])).1
    exact ⟨_, hrefused, hsame.trans hrefused⟩

end FrameTap.CommandLine
