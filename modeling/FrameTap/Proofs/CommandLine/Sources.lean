import FrameTap.CommandLine.Help
import FrameTap.Network
import FrameTap.Proofs.CommandLine.Endpoints
import FrameTap.Proofs.CommandLine.Reading
import FrameTap.Proofs.Listener.Setup
import FrameTap.Proofs.Text.Division

/-!
# Where the endpoints come from

Three sources can give the endpoints: the option, the environment variable, and a host with
its ports.  None of them gives an empty list.  An entry has at least one value, a value has at
least one piece, and each piece that is accepted is one endpoint or one port; a piece that is
not, as the empty one, is refused.  So a command line that is accepted never leaves the
listener without an endpoint (`parse_gives_endpoints`).

Of the sources only the first one that is there counts (`first_source_counts`): the variable is
not looked at where the option was read, nor the host and the ports where the variable was.
-/

namespace FrameTap.CommandLine

variable {args : List Bytes} {env? : Option Bytes} {s : Settings} {d d' : Draft} {o : Opt}
  {values : List Bytes} {es : List Endpoint}

/-! ## Values -/

theorem spread_ne_nil (h : values ≠ []) : Draft.spread values ≠ [] := by
  cases values with
  | nil => exact absurd rfl h
  | cons value values =>
    have hcut : Text.cut 0x20 value ≠ [] := by
      rw [Text.cut_eq_splitOn]
      exact List.splitOn_ne_nil _ _
    rw [Draft.spread, List.flatMap_cons]
    simp [hcut]

theorem textOf_eq_ok_iff {value : Bytes} {t : Text} :
    textOf value = .ok t ↔ value = Utf8.encode t := by
  rw [← Utf8.decode?_eq_some_iff, textOf]
  split <;> simp_all

theorem readEndpoint_eq_ok_iff {value : Bytes} {e : Endpoint} :
    readEndpoint value = .ok e ↔ ∃ t, value = Utf8.encode t ∧ Endpoint.parse t = .ok e := by
  rw [readEndpoint, bind_eq_ok_iff]
  exact exists_congr fun t => and_congr textOf_eq_ok_iff mapError_eq_ok_iff

/-- The value is a list of these endpoints: one text for each, with one space between any two. -/
def Lists (value : Bytes) (es : List Endpoint) : Prop :=
  List.Forall₂ (fun piece e => ∃ t, piece = Utf8.encode t ∧ Endpoint.parse t = .ok e)
    (Text.cut 0x20 value) es

/-! ## Drafts -/

/-- What the draft holds of endpoints and ports is not empty, and its endpoints are accepted. -/
structure Filled (d : Draft) : Prop where
  endpoint : ∀ es, d.endpoint = some es → es ≠ [] ∧ ∀ e ∈ es, e.Accepted
  port : ∀ ports, d.port = some ports → ports ≠ []

theorem filled_empty : Filled {} := ⟨nofun, nofun⟩

theorem accepted_of_readEndpoint {value : Bytes} {e : Endpoint} (h : readEndpoint value = .ok e) :
    e.Accepted := by
  obtain ⟨t, -, ht⟩ := readEndpoint_eq_ok_iff.1 h
  exact Endpoint.accepted_of_parse ht

theorem Filled.enter (hd : Filled d) (h : d.enter o values = .ok d') : Filled d' := by
  obtain ⟨hne, hentered⟩ := Draft.enter_eq_ok_iff.1 h
  cases hentered with
  | @endpoint _ es hes =>
    have hnew := forall_mem_of_mapM hes fun _ _ => accepted_of_readEndpoint
    have hold : ∀ e ∈ d.endpoint.getD [], e.Accepted := by
      cases hendpoint : d.endpoint with
      | none => exact List.forall_mem_nil _
      | some es' => exact (hd.endpoint es' hendpoint).2
    refine ⟨?_, hd.port⟩
    rintro _ ⟨⟩
    refine ⟨?_, List.forall_mem_append.2 ⟨hold, hnew⟩⟩
    exact List.append_ne_nil_of_right_ne_nil _ (ne_nil_of_mapM hes (spread_ne_nil hne))
  | port hports =>
    refine ⟨hd.endpoint, ?_⟩
    rintro _ ⟨⟩
    exact List.append_ne_nil_of_right_ne_nil _ (ne_nil_of_mapM hports (spread_ne_nil hne))
  | host | format | pollInterval => exact ⟨hd.endpoint, hd.port⟩

theorem Filled.enterDebug (hd : Filled d) (h : d.enterDebug = .ok d') : Filled d' := by
  rw [Draft.enterDebug] at h
  split at h
  · cases h
  · cases h
    exact ⟨hd.endpoint, hd.port⟩

/-- The variable is left alone, or it is entered like the value of the option. -/
theorem enterVariable_cases (h : d.enterVariable env? = .ok d') :
    d' = d ∨ ∃ value, env? = some value ∧ d.endpoint = none ∧
      d.enter .endpoint [value] = .ok d' := by
  cases hendpoint : d.endpoint with
  | some es =>
    rw [enterVariable_of_isSome (by rw [hendpoint]; rfl)] at h
    exact .inl (Except.ok.inj h).symm
  | none =>
    cases env? with
    | none =>
      simp only [Draft.enterVariable, hendpoint] at h
      exact .inl (Except.ok.inj h).symm
    | some value =>
      simp only [Draft.enterVariable, hendpoint] at h
      exact .inr ⟨value, rfl, rfl, h⟩

theorem Filled.enterVariable (hd : Filled d) (h : d.enterVariable env? = .ok d') : Filled d' := by
  rcases enterVariable_cases h with rfl | ⟨value, -, -, henter⟩
  · exact hd
  · exact hd.enter henter

theorem filled_readAll (h : Reading.readAll {} args = .ok d) : Filled d := by
  have hgrows := Reading.readAll_grows h
  exact hgrows.preserves (fun _ _ _ _ henter hd => hd.enter henter)
    (fun _ _ hdebug hd => hd.enterDebug hdebug) filled_empty

theorem parse_eq_ok_iff : parse args env? = .ok s ↔
    ∃ d d', Reading.readAll {} args = .ok d ∧ d.enterVariable env? = .ok d' ∧ s = d'.settings := by
  rw [parse, bind_eq_ok_iff]
  constructor
  · rintro ⟨d, hd, h⟩
    obtain ⟨d', hd', h⟩ := bind_eq_ok_iff.1 h
    cases h
    exact ⟨d, d', hd, Reading.misused_eq_ok_iff.1 hd', rfl⟩
  · rintro ⟨d, d', hd, hd', rfl⟩
    exact ⟨d, hd, bind_eq_ok_iff.2 ⟨d', Reading.misused_eq_ok_iff.2 hd', rfl⟩⟩

theorem holds_readAll (h : Reading.readAll {} args = .ok d) (n : Named) :
    d.holds n = (names args).contains n := by
  have hgrows := Reading.readAll_grows h
  rw [hgrows.holds, Draft.holds_empty, Bool.false_or]
  rfl

/-! ## There is an endpoint -/

theorem port_settings_ne_nil (hd : Filled d) : d.settings.port ≠ [] := by
  show d.port.getD defaultPorts ≠ []
  cases hport : d.port with
  | none => decide
  | some ports => exact hd.port ports hport

theorem endpoints_settings_filled (hd : Filled d) (h : d.settings.endpoints = .ok es) :
    es ≠ [] ∧ ∀ e ∈ es, e.Accepted := by
  rw [Settings.endpoints] at h
  split at h
  · -- One endpoint for each port.
    refine ⟨ne_nil_of_mapM h (port_settings_ne_nil hd), ?_⟩
    exact forall_mem_of_mapM h fun _ _ => Endpoint.accepted_of_parse
  · rename_i hempty
    cases h
    cases hendpoint : d.endpoint with
    | none =>
      rw [Draft.settings, hendpoint] at hempty
      exact absurd rfl hempty
    | some es =>
      have hsettings : d.settings.endpoint = es := by
        rw [Draft.settings, hendpoint]
        rfl
      rw [hsettings]
      exact hd.endpoint es hendpoint

/-- The conditions on the parts of an endpoint that was accepted. -/
theorem parts_of_accepted {e : Endpoint} (h : e.Accepted) :
    e.host ≠ [] ∧ (∀ c ∈ e.host, ¬ Text.WhiteSpace c) ∧ 1 ≤ e.port.toNat ∧
      e.port.toNat ≤ 65535 := by
  have hhost := Endpoint.hostFault?_eq_none_iff.1 h.1
  exact ⟨hhost.ne_nil, hhost.unbroken, Endpoint.one_le_toNat_iff.2 h.2,
    Nat.le_of_lt_succ e.port.toNat_lt⟩

/-- With an endpoint to set up, only the socket can say that there is none. -/
theorem setup_noEndpoints {l : Listener} {socket : Socket} (hes : es ≠ [])
    (h : (l.setup socket es).result = .error .noEndpoints) :
    socket.subscribe = .error .noEndpoints ∨
      ∃ n e, socket.connect n e = .error .noEndpoints := by
  rcases Listener.setup_eq_error h with ⟨hnil, -⟩ | hsubscribe | ⟨n, hn, hconnect⟩ | ⟨fault, hfault⟩
  · exact absurd hnil hes
  · exact .inl hsubscribe
  · exact .inr ⟨n, es[n], hconnect⟩
  · cases hfault

theorem setup_subscriber {l : Listener} (network : Network) (hes : es ≠ []) :
    (l.setup network.subscriber es).result ≠ .error .noEndpoints := by
  intro h
  rcases setup_noEndpoints hes h with hsubscribe | ⟨n, e, hconnect⟩
  · have hcall : network.call = .error .noEndpoints := hsubscribe
    rw [Network.call] at hcall
    split at hcall <;> cases hcall
  · simp only [Network.subscriber] at hconnect
    split at hconnect <;> cases hconnect

/-- Whatever the command line and the environment are, settings that are accepted have a port,
and their endpoints are refused or there is one at least, each with a host without white
space and with a port that is not zero.  So setting up never finds that there is none, except
in the answer of a socket that says so itself, as no subscriber socket does. -/
theorem parse_gives_endpoints (h : parse args env? = .ok s) :
    s.port ≠ [] ∧
      ((∃ fault, s.endpoints = .error fault) ∨
        ∃ es, s.endpoints = .ok es ∧ es ≠ [] ∧
          (∀ e ∈ es, e.host ≠ [] ∧ (∀ c ∈ e.host, ¬ Text.WhiteSpace c) ∧
            1 ≤ e.port.toNat ∧ e.port.toNat ≤ 65535) ∧
          (∀ (l : Listener) (network : Network),
            (l.setup network.subscriber es).result ≠ .error .noEndpoints) ∧
          ∀ (l : Listener) (socket : Socket),
            (l.setup socket es).result = .error .noEndpoints →
              socket.subscribe = .error .noEndpoints ∨
                ∃ n e, socket.connect n e = .error .noEndpoints) := by
  obtain ⟨d, d', hd, hd', rfl⟩ := parse_eq_ok_iff.1 h
  have hfilled := (filled_readAll hd).enterVariable hd'
  refine ⟨port_settings_ne_nil hfilled, ?_⟩
  cases hendpoints : d'.settings.endpoints with
  | error fault => exact .inl ⟨fault, rfl⟩
  | ok es =>
    obtain ⟨hne, haccepted⟩ := endpoints_settings_filled hfilled hendpoints
    exact .inr ⟨es, rfl, hne, fun e he => parts_of_accepted (haccepted e he),
      fun _ network => setup_subscriber network hne, fun _ _ => setup_noEndpoints hne⟩

/-- Ports in two places, of which one has two of them, and no value of the variable. -/
theorem parse_gives_endpoints_ports :
    ∃ s, parse (["-p", "7 8", "--host=h", "-p9"].map (Utf8.encode ·.toList)) none = .ok s ∧
      s.port = [7, 8, 9] ∧ s.endpoints = .ok [⟨['h'], 7⟩, ⟨['h'], 8⟩, ⟨['h'], 9⟩] ∧
      ∀ (l : Listener) (network : Network),
        (l.setup network.subscriber [⟨['h'], 7⟩, ⟨['h'], 8⟩, ⟨['h'], 9⟩]).result ≠
          .error .noEndpoints := by
  have h : parse (["-p", "7 8", "--host=h", "-p9"].map (Utf8.encode ·.toList)) none =
      .ok { host := ['h'], port := [7, 8, 9] } := rfl
  have hendpoints : Settings.endpoints { host := ['h'], port := [7, 8, 9] } =
      .ok [⟨['h'], 7⟩, ⟨['h'], 8⟩, ⟨['h'], 9⟩] := rfl
  refine ⟨_, h, rfl, hendpoints, ?_⟩
  rcases (parse_gives_endpoints h).2 with ⟨fault, hfault⟩ | ⟨es, hes, -, -, hsetup, -⟩
  · rw [hendpoints] at hfault
    cases hfault
  · rw [hendpoints] at hes
    cases hes
    exact hsetup

/-! ## The first source counts -/

/-- What the command line answers: settings and the endpoints that they come to, or a line
that says what is wrong, or a help text. -/
inductive Answer where
  | accepted (s : Settings) (endpoints : Except Endpoint.ParseError (List Endpoint))
  | rejected (m : Misuse) (line : Text)
  | help (text : Text)

def answer (args : List Bytes) (env? : Option Bytes) : Answer :=
  match parse args env? with
  | .ok s => .accepted s s.endpoints
  | .error (.misuse m) => .rejected m m.report
  | .error (.help detailed) => .help (help detailed env?)

theorem parse_of_endpoint (h : .opt .endpoint ∈ names args) (env₁ env₂ : Option Bytes) :
    parse args env₁ = parse args env₂ := by
  rw [parse, parse]
  cases hread : Reading.readAll {} args with
  | error stop => rfl
  | ok d =>
    have hsome : d.endpoint.isSome := by
      show d.holds (.opt .endpoint) = true
      rw [holds_readAll hread, List.contains_iff_mem]
      exact h
    rw [ok_bind, ok_bind, enterVariable_of_isSome hsome, enterVariable_of_isSome hsome]

theorem lists_of_enterVariable {value : Bytes} (hnone : d.endpoint = none)
    (h : d.enterVariable (some value) = .ok d') :
    ∃ es, es ≠ [] ∧ Lists value es ∧ d'.endpoint = some es := by
  simp only [Draft.enterVariable, hnone] at h
  obtain ⟨hne, hentered⟩ := Draft.enter_eq_ok_iff.1 h
  cases hentered with
  | @endpoint _ es hes =>
    refine ⟨es, ne_nil_of_mapM hes (spread_ne_nil hne), ?_, ?_⟩
    · have hspread : Draft.spread [value] = Text.cut 0x20 value := List.flatMap_singleton _ _
      rw [hspread] at hes
      exact (mapM_eq_ok_iff.1 hes).imp fun _ _ => readEndpoint_eq_ok_iff.1
    · rw [hnone]
      rfl

/-- Where the option was read, the variable makes no difference to what is answered, except that
a help text shows it.  Where it was not read and the variable is set, a command line that is
accepted listens to what the variable lists, whatever the host and the ports are. -/
theorem first_source_counts (args : List Bytes) :
    (.opt .endpoint ∈ names args → ∀ env₁ env₂ : Option Bytes,
      (∀ text, answer args env₁ ≠ .help text) → answer args env₂ = answer args env₁) ∧
    (.opt .endpoint ∉ names args → ∀ (value : Bytes) (s : Settings),
      parse args (some value) = .ok s →
      ∃ es, es ≠ [] ∧ Lists value es ∧ s.endpoints = .ok es) := by
  constructor
  · intro hread env₁ env₂ hhelp
    rw [answer, answer, parse_of_endpoint hread env₂ env₁]
    rw [answer] at hhelp
    cases hparse : parse args env₁ with
    | ok s => rfl
    | error stop =>
      rw [hparse] at hhelp
      cases stop with
      | misuse m => rfl
      | help detailed => exact absurd rfl (hhelp _)
  · intro hread value s h
    obtain ⟨d, d', hd, hd', rfl⟩ := parse_eq_ok_iff.1 h
    have hnone : d.endpoint = none := by
      refine endpoint_eq_none ?_
      rw [holds_readAll hd]
      simpa using hread
    obtain ⟨es, hne, hlists, hes⟩ := lists_of_enterVariable hnone hd'
    exact ⟨es, hne, hlists, endpoints_settings hes hne⟩

/-- The option alone and behind a wrong format, with a variable that is not UTF-8 and without it;
and a variable with two endpoints, over a host and a port that make none. -/
theorem first_source_counts_each :
    let accepted := ["-etcp://a:1"].map (Utf8.encode ·.toList)
    let rejected := ["-f", "xml", "-etcp://a:1"].map (Utf8.encode ·.toList)
    let unusable := ["--host", "::1", "-p", "0"].map (Utf8.encode ·.toList)
    let value := Utf8.encode "tcp://b:2 tcp://c:3".toList
    answer accepted (some [0xFF]) = answer accepted none ∧
      answer rejected (some [0xFF]) = answer rejected none ∧
      ∃ s, parse unusable (some value) = .ok s ∧ s.host = "::1".toList ∧ s.port = [0] ∧
        Lists value [⟨['b'], 2⟩, ⟨['c'], 3⟩] ∧ s.endpoints = .ok [⟨['b'], 2⟩, ⟨['c'], 3⟩] := by
  intro accepted rejected unusable value
  have haccepted : answer accepted none =
      .accepted { endpoint := [⟨['a'], 1⟩] } (.ok [⟨['a'], 1⟩]) := rfl
  have hrejected : answer rejected none =
      .rejected (.unknownFormat "xml".toList) (Misuse.unknownFormat "xml".toList).report := rfl
  have hparse : parse unusable (some value) =
      .ok { endpoint := [⟨['b'], 2⟩, ⟨['c'], 3⟩], host := "::1".toList, port := [0] } := rfl
  refine ⟨?_, ?_, _, hparse, rfl, rfl, ?_⟩
  · refine (first_source_counts accepted).1 (by decide) none (some [0xFF]) fun text h => ?_
    rw [haccepted] at h
    cases h
  · refine (first_source_counts rejected).1 (by decide) none (some [0xFF]) fun text h => ?_
    rw [hrejected] at h
    cases h
  · obtain ⟨es, -, hlists, hes⟩ := (first_source_counts unusable).2 (by decide) value _ hparse
    cases hes
    exact ⟨hlists, rfl⟩

end FrameTap.CommandLine
