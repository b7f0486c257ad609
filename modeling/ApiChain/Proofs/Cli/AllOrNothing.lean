import Mathlib
import ApiChain.Cli.Program
import ApiChain.Proofs.Cli.Options
import ApiChain.Proofs.Files.Directory
import ApiChain.Proofs.Run.Success

/-!
# All or nothing

The program hands a table over only once every request of its run is answered; until then it has
printed and written nothing.

* **`Config.load_unreadable`, `load_malformed`, `load_defective`, `load_checked`** are the four ways in
  which loading ends, told by the file, by its text and by the check;
* **`Session.of_refused`, `of_withoutClient`, `of_failed`, `of_finished`** are the four ways in which
  a session ends, told by what was loaded, by the client and by the exchanges with the peer;
* **`run_error`, `run_prints`, `run_writes`** say what the program does to a world in each case;
* **`program_all_or_nothing`** puts them together, and **`run_leaves_table`** says what it means for a
  directory.
-/

namespace ApiChain

variable {σ : Type}

/-! ## Loading -/

namespace Config

variable {text : String} {c : Config}

theorem load_unreadable (path : String) (e : Files.Error) :
    (load path (.error e)).2 = .error (unreadable path e) := rfl

theorem load_malformed (path : String) {e : ConfigError} (h : read text = .error e) :
    (load path (.ok text)).2 = .error e := by
  simp only [load, readChecked, h]

/-- A configuration with a defect is not loaded, and the defect is the error. -/
theorem load_defective (path : String) (h : read text = .ok c) {defect : ConfigError}
    (hdefect : c.check.2 = some defect) : (load path (.ok text)).2 = .error defect := by
  rcases hcheck : c.check with ⟨notices, found⟩
  rw [hcheck] at hdefect
  subst hdefect
  simp only [load, readChecked, h, checked, hcheck]

theorem load_checked (path : String) (h : read text = .ok c) (hcheck : c.check.2 = none) :
    (load path (.ok text)).2 = .ok c := by
  rcases hverdict : c.check with ⟨notices, found⟩
  rw [hverdict] at hcheck
  subst hcheck
  simp only [load, readChecked, h, checked, hverdict]

end Config

/-! ## Harvests -/

section Harvests

variable {peer : Http.Peer σ} {c : Config} {client : Http.Client} {s : σ}

/-- The exchanges of a harvest over a client that is set up. -/
def harvestExchanges (client : Http.Client) (peer : Http.Peer σ) (c : Config) (s : σ) :
    List Exchange :=
  Run.exchanges (client.transport peer) c.definitions (Run.State.initial s)

theorem harvest_withoutClient {e : RequestError}
    (h : Http.Client.ofSettings c.settings = .error e) :
    harvest peer c s = (.error (.client e), Run.State.initial s) := by
  simp only [harvest, h]

theorem harvest_withClient (h : Http.Client.ofSettings c.settings = .ok client) :
    harvest peer c s
      = Run.runFrom (client.transport peer) c.definitions (Run.State.initial s) := by
  simp only [harvest, h, Run.run]

theorem harvest_finished (h : Http.Client.ofSettings c.settings = .ok client)
    (hall : ∀ x ∈ harvestExchanges client peer c s, x.succeeded) :
    (harvest peer c s).1 = .ok () ∧
      (harvest peer c s).2.records
        = (harvestExchanges client peer c s).flatMap Exchange.records := by
  rw [harvest_withClient h]
  constructor
  · exact Run.runFrom_ok_iff_succeeded.mpr hall
  · have hleaves :=
      Run.runFrom_leaves (client.transport peer) c.definitions (Run.State.initial s)
    exact hleaves.records.trans (List.nil_append _)

/-- The failure of a harvest is that of a request. -/
theorem harvest_failed (h : Http.Client.ofSettings c.settings = .ok client)
    (hfailed : ∃ x ∈ harvestExchanges client peer c s, ¬ x.succeeded) :
    ∃ api iteration cause, (harvest peer c s).1 = .error (.request api iteration cause) := by
  rw [harvest_withClient h]
  obtain ⟨x, hx, hno⟩ := hfailed
  rcases Run.runFrom_cases (client.transport peer) c.definitions (Run.State.initial s)
    with ⟨-, -, hcomplete⟩ | ⟨-, last, answered, -, cause, -, hfail, -⟩
  · exact absurd (Run.succeeded_of_complete hcomplete x hx) hno
  · exact ⟨_, _, cause, hfail⟩

end Harvests

namespace Cli

/-! ## How a session ends -/

namespace Session

variable {o : Options} {file : Except Files.Error String} {peer : Http.Peer σ} {s : σ}
variable {c : Config}

theorem of_refused (peer : Http.Peer σ) (s : σ) {e : ConfigError}
    (h : (Config.load o.config file).2 = .error e) :
    (of o file peer s).result = .error (.config e) ∧ (of o file peer s).peer = s := by
  rcases hload : Config.load o.config file with ⟨notices, loaded⟩
  rw [hload] at h
  subst h
  simp [of, hload, failing]

/-- A session over a configuration ends as the harvest does. -/
theorem of_loaded (peer : Http.Peer σ) (s : σ) (h : (Config.load o.config file).2 = .ok c) :
    (of o file peer s).peer = (harvest peer c s).2.peer ∧
      (of o file peer s).result = (harvest peer c s).1.map fun _ =>
        { destination := destination o c, table := c.table (harvest peer c s).2.records
          count := (harvest peer c s).2.records.length } := by
  rcases hload : Config.load o.config file with ⟨notices, loaded⟩
  rw [hload] at h
  subst h
  rcases hharvest : harvest peer c s with ⟨e | done, run⟩
  · simp [of, hload, hharvest, failing, Except.map]
  · simp [of, hload, hharvest, Except.map]

theorem of_withoutClient (peer : Http.Peer σ) (s : σ) {e : RequestError}
    (h : (Config.load o.config file).2 = .ok c)
    (hclient : Http.Client.ofSettings c.settings = .error e) :
    (of o file peer s).result = .error (.client e) ∧ (of o file peer s).peer = s := by
  obtain ⟨hpeer, hresult⟩ := of_loaded peer s h
  rw [harvest_withoutClient hclient] at hpeer hresult
  exact ⟨hresult, hpeer⟩

variable {client : Http.Client}

theorem of_failed (h : (Config.load o.config file).2 = .ok c)
    (hclient : Http.Client.ofSettings c.settings = .ok client)
    (hfailed : ∃ x ∈ harvestExchanges client peer c s, ¬ x.succeeded) :
    ∃ api iteration cause,
      (of o file peer s).result = .error (.request api iteration cause) := by
  obtain ⟨api, iteration, cause, hfail⟩ := harvest_failed hclient hfailed
  refine ⟨api, iteration, cause, ?_⟩
  rw [(of_loaded peer s h).2, hfail]
  rfl

theorem of_finished (h : (Config.load o.config file).2 = .ok c)
    (hclient : Http.Client.ofSettings c.settings = .ok client)
    (hall : ∀ x ∈ harvestExchanges client peer c s, x.succeeded) :
    (of o file peer s).result = .ok
      { destination := destination o c
        table := c.table ((harvestExchanges client peer c s).flatMap Exchange.records)
        count := ((harvestExchanges client peer c s).flatMap Exchange.records).length } := by
  obtain ⟨hok, hrecords⟩ := harvest_finished hclient hall
  rw [(of_loaded peer s h).2, hok, hrecords]
  rfl

end Session

/-! ## What the program does to a world -/

section Worlds

variable {φ : Type} (peer : Http.Peer σ) (disk : Files.Disk φ) (o : Options)

/-- Nothing was printed, and the disk is as it was. -/
structure World.Untouched (before after : World σ φ) : Prop where
  printed : after.printed = before.printed
  disk : after.disk = before.disk

theorem report_shows (ns : List Notice) (w : World σ φ) :
    (World.system peer disk).report o ns w
      = ((), { w with shown := w.shown ++ (o.shown ns).map Notice.line }) := by
  unfold System.report
  induction o.shown ns generalizing w with
  | nil => simp [pure, StateT.pure]
  | cons n rest ih =>
    have hline : (World.system peer disk).showLine n.line w
        = ((), { w with shown := w.shown ++ [n.line] }) := rfl
    show (List.forM rest fun n => (World.system peer disk).showLine n.line)
      ((World.system peer disk).showLine n.line w).2 = _
    rw [hline]
    refine (ih _).trans ?_
    simp [List.append_assoc]

/-- The session that the program runs in a world. -/
def World.session (w : World σ φ) : Session σ :=
  Session.of o (disk.read w.disk o.config) peer w.peer

/-- A world after the session in it. -/
def World.afterSession (w : World σ φ) : World σ φ :=
  { w with
    peer := (w.session peer disk o).peer
    shown := w.shown ++ (o.shown (w.session peer disk o).notices).map Notice.line }

variable {peer disk o} {w : World σ φ}

theorem session_world : (World.system peer disk).session o w
    = (((w.session peer disk o).notices, (w.session peer disk o).result),
        { w with peer := (w.session peer disk o).peer }) := rfl

theorem run_error {e : ChainError} (h : (w.session peer disk o).result = .error e) :
    (World.system peer disk).run o w = (exitCode e, w.afterSession peer disk o) := by
  simp only [System.run, bind, StateT.bind, session_world, report_shows, h]
  rfl

theorem run_delivers {d : Delivery} (h : (w.session peer disk o).result = .ok d)
    {written : Except String Unit} {after : World σ φ}
    (hdeliver : (World.system peer disk).deliver d (w.afterSession peer disk o) = (written, after)) :
    (World.system peer disk).run o w
      = ((d.ending written).code,
          { after with
            shown := after.shown ++ (o.shown (d.ending written).notices).map Notice.line }) := by
  have hsession : { w with
      peer := (w.session peer disk o).peer
      shown := w.shown ++ (o.shown (w.session peer disk o).notices).map Notice.line }
    = w.afterSession peer disk o := rfl
  simp only [System.run, bind, StateT.bind, session_world, report_shows, h, hsession, hdeliver]
  rfl

theorem run_prints {d : Delivery} (h : (w.session peer disk o).result = .ok d)
    (hstdout : d.destination = .stdout) :
    ∃ shown, (World.system peer disk).run o w
      = (successCode, { w.afterSession peer disk o with printed := w.printed ++ d.table, shown }) := by
  have hdeliver : (World.system peer disk).deliver d (w.afterSession peer disk o)
      = (.ok (), { w.afterSession peer disk o with printed := w.printed ++ d.table }) := by
    rw [System.deliver, hstdout]
    rfl
  have hcode : (d.ending (.ok ())).code = successCode := by simp only [Delivery.ending, hstdout]
  rw [run_delivers h hdeliver, hcode]
  exact ⟨_, rfl⟩

theorem run_writes {d : Delivery} (h : (w.session peer disk o).result = .ok d) {path : String}
    (hfile : d.destination = .file path) {content : φ}
    (hwrite : disk.write w.disk path d.table = .ok content) :
    ∃ shown, (World.system peer disk).run o w
      = (successCode, { w.afterSession peer disk o with disk := content, shown }) := by
  have hdeliver : (World.system peer disk).deliver d (w.afterSession peer disk o)
      = (.ok (), { w.afterSession peer disk o with disk := content }) := by
    have hsame : (w.afterSession peer disk o).disk = w.disk := rfl
    simp only [System.deliver, hfile, World.system, hsame, hwrite]
  have hcode : (d.ending (.ok ())).code = successCode := by simp only [Delivery.ending, hfile]
  rw [run_delivers h hdeliver, hcode]
  exact ⟨_, rfl⟩

/-- A run over a configuration that cannot be loaded has the code 2, and nothing is touched: neither what
is printed, nor the disk, nor the peer. -/
theorem run_refused {e : ConfigError}
    (h : (Config.load o.config (disk.read w.disk o.config)).2 = .error e) {code : Nat}
    {after : World σ φ} (hended : (World.system peer disk).run o w = (code, after)) :
    code = 2 ∧ w.Untouched after ∧ after.peer = w.peer := by
  obtain ⟨hresult, hpeer⟩ := Session.of_refused peer w.peer h
  obtain ⟨rfl, rfl⟩ := Prod.mk.inj ((run_error hresult).symm.trans hended)
  exact ⟨rfl, ⟨rfl, rfl⟩, hpeer⟩

/-- **The run is all or nothing.** Let the command line ask for a run, over any peer and any disk. The
options say of the table what the arguments say: that it is printed, or the file that it is written to.

If the file of the configuration cannot be read, if its text holds no configuration, or if the
configuration has a defect, the code is 2, nothing is printed or written, and the peer is as it was: as
it may be one that keeps all it is sent, no request was sent. If the client cannot be set up, or if any
request of the run fails, the code is 1 and nothing is printed or written. If every request is answered,
the table of all records of the run goes where the options and the configuration send it, and nowhere
else, and the code is 0, unless the file cannot be written. -/
theorem program_all_or_nothing {σ φ : Type} (peer : Http.Peer σ) (disk : Files.Disk φ)
    (arguments : List String) (o : Options) (hrun : Command.ofArguments arguments = .run o)
    (w after : World σ φ) (code : Nat)
    (hended : (World.system peer disk).program arguments w = (code, after)) :
    let options := optionArguments (arguments.map String.toList)
    let file := disk.read w.disk o.config
    let refused := code = 2 ∧ w.Untouched after ∧ after.peer = w.peer
    ((o.stdout = true ↔ "--stdout".toList ∈ options) ∧
      ∀ path, o.output = some path ↔ NamesOutput path.toList options) ∧
    (∀ e, file = .error e → refused) ∧
    (∀ text e, file = .ok text → Config.read text = .error e → refused) ∧
    ∀ text c, file = .ok text → Config.read text = .ok c →
      (∀ defect, c.check.2 = some defect → refused) ∧
      (c.check.2 = none →
        (∀ e, Http.Client.ofSettings c.settings = .error e →
          code = 1 ∧ w.Untouched after ∧ after.peer = w.peer) ∧
        ∀ client, Http.Client.ofSettings c.settings = .ok client →
          let exchanges :=
            Run.exchanges (client.transport peer) c.definitions (Run.State.initial w.peer)
          let table := Delimited.ofRecords c.delimiter (exchanges.flatMap Exchange.records)
          ((∃ x ∈ exchanges, x.succeeded = false) → code = 1 ∧ w.Untouched after) ∧
            ((∀ x ∈ exchanges, x.succeeded = true) →
              (o.stdout = true →
                code = 0 ∧ after.printed = w.printed ++ table ∧ after.disk = w.disk) ∧
              (o.stdout = false → ∀ content,
                disk.write w.disk (o.output.getD c.output) table = .ok content →
                  code = 0 ∧ after.printed = w.printed ∧ after.disk = content))) := by
  intro options file refused
  have hprogram : (World.system peer disk).program arguments = (World.system peer disk).run o := by
    simp only [System.program, hrun]
  rw [hprogram] at hended
  obtain ⟨hstdout, houtput, -⟩ := options_of_arguments hrun
  refine ⟨⟨hstdout, houtput⟩, ?unreadable, ?malformed, ?readable⟩
  case unreadable =>
    intro e hfile
    exact run_refused (hfile ▸ Config.load_unreadable o.config e) hended
  case malformed =>
    intro text e hfile hread
    exact run_refused (hfile ▸ Config.load_malformed o.config hread) hended
  case readable =>
    intro text c hfile hread
    refine ⟨?defective, fun hcheck => ?checked⟩
    case defective =>
      intro defect hdefect
      exact run_refused (hfile ▸ Config.load_defective o.config hread hdefect) hended
    case checked =>
      have hload : (Config.load o.config file).2 = .ok c :=
        hfile ▸ Config.load_checked o.config hread hcheck
      refine ⟨?withoutClient, ?withClient⟩
      case withoutClient =>
        intro e hclient
        obtain ⟨hresult, hpeer⟩ := Session.of_withoutClient peer w.peer hload hclient
        obtain ⟨rfl, rfl⟩ := Prod.mk.inj ((run_error hresult).symm.trans hended)
        exact ⟨rfl, ⟨rfl, rfl⟩, hpeer⟩
      case withClient =>
        intro client hclient exchanges table
        refine ⟨?failed, ?finished⟩
        case failed =>
          rintro ⟨x, hx, hno⟩
          obtain ⟨api, iteration, cause, hresult⟩ :=
            Session.of_failed hload hclient ⟨x, hx, Bool.eq_false_iff.mp hno⟩
          obtain ⟨rfl, rfl⟩ := Prod.mk.inj ((run_error hresult).symm.trans hended)
          exact ⟨rfl, ⟨rfl, rfl⟩⟩
        case finished =>
          intro hall
          have hresult := Session.of_finished hload hclient hall
          refine ⟨?printed, ?written⟩
          case printed =>
            intro hstdout
            obtain ⟨_, hran⟩ := run_prints hresult (if_pos hstdout)
            obtain ⟨rfl, rfl⟩ := Prod.mk.inj (hran.symm.trans hended)
            exact ⟨rfl, rfl, rfl⟩
          case written =>
            intro hfile content hwrite
            have hdestination : destination o c = .file (o.output.getD c.output) := by
              simp [destination, hfile]
            obtain ⟨_, hran⟩ := run_writes hresult hdestination hwrite
            obtain ⟨rfl, rfl⟩ := Prod.mk.inj (hran.symm.trans hended)
            exact ⟨rfl, rfl, rfl⟩

/-- In a directory, the table is read back from the file that it was written to, and any other file is
there after the run if and only if it was there before. -/
theorem run_leaves_table {w : World σ Files.Directory} {d : Delivery} {path : String}
    (h : (w.session peer Files.Directory.disk o).result = .ok d)
    (hfile : d.destination = .file path) {content : Files.Directory}
    (hwrite : w.disk.writeText path d.table = .ok content) :
    let after := ((World.system peer Files.Directory.disk).run o w).2.disk
    after.readText path = .ok d.table ∧
      ∀ place octets, w.disk.walk path ≠ .ok (.inside place) →
        (after.at? place = .file octets ↔ w.disk.at? place = .file octets) := by
  obtain ⟨_, hran⟩ := run_writes h hfile hwrite
  rw [hran]
  refine ⟨Files.Directory.readText_writeText hwrite, ?_⟩
  intro place octets hother
  exact Files.Directory.at?_writeText_file_iff hwrite hother

end Worlds

/-! ## A chain of two calls -/

/-- A chain whose second call is made once for each element that the first one brings. -/
def chainText : String :=
  "apis: [\x7bid: a, method: GET, url: 'http://t', mapping: [\x7bfrom: n, to: n\x7d]\x7d, "
    ++ "\x7bid: b, method: GET, url: 'http://t/\x7b\x7ba.data[*].n\x7d\x7d', previousApiId: a, "
    ++ "mapping: [\x7bfrom: m, to: m\x7d]\x7d]"

/-- The configuration that the text holds. -/
def chain : Config :=
  Config.ofDefinitions
    [(Definition.basic "a" .get "" "http://t").withRule "n" "n",
      ((Definition.basic "b" .get "" "http://t/\x7b\x7ba.data[*].n\x7d\x7d").withPrevious
        "a").withRule "m" "m"]

/-- The chain with no time for its requests, which is refused. -/
def hurriedText : String := "timeout: 0\n" ++ chainText

/-- The configuration that this text holds. -/
def hurried : Config := { chain with settings := ⟨some 0, none⟩ }

def chainClient : Http.Client :=
  ⟨chain.settings.effectiveUserAgent, chain.settings.timeoutMilliseconds⟩

/-- A peer that sends texts, one for each request, and then nothing more. -/
def answering : Http.Peer (List String) where
  exchange _ _ texts :=
    match texts with
    | [] => (.error .timeout, [])
    | text :: rest => (.ok ⟨200, [], text, ⟨0⟩⟩, rest)

/-- What the peer sends for the first call and the first element. -/
def listAndOne : List String :=
  ["\x7b\"data\": [\x7b\"n\": 1\x7d, \x7b\"n\": 2\x7d]\x7d", "\x7b\"m\": 3\x7d"]

/-- What it sends for the second element. -/
def another : String := "\x7b\"m\": 4\x7d"

/-- A directory that holds the text of a configuration. -/
def directoryOf (text : String) : Files.Directory :=
  Files.Directory.empty.put ["c.yaml"] text.toUTF8

theorem readText_directoryOf (text : String) : (directoryOf text).readText "c.yaml" = .ok text := by
  have hwalk : Files.Directory.empty.walk "c.yaml" = .ok (.inside ["c.yaml"]) := rfl
  have hwrite : Files.Directory.empty.writeText "c.yaml" text = .ok (directoryOf text) := by
    rw [Files.Directory.writeText, hwalk]
    rfl
  exact Files.Directory.readText_writeText hwrite

/-- A run of the configuration in a text over a peer that sends the texts. -/
def runOf (config : String) (texts : List String) : Nat × World (List String) Files.Directory :=
  (World.system answering Files.Directory.disk).program ["c.yaml", "-o", "t.csv"]
    ⟨texts, directoryOf config, "", []⟩

/-- Without an answer for the second element nothing is written, with one the whole table is. Without
time for its requests the chain sends none. -/
theorem program_all_or_nothing_chain :
    ((runOf chainText listAndOne).1 = 1 ∧ (runOf chainText listAndOne).2.printed = "" ∧
      (runOf chainText listAndOne).2.disk = directoryOf chainText) ∧
    ((runOf chainText (listAndOne ++ [another])).1 = 0 ∧
      (runOf chainText (listAndOne ++ [another])).2.disk
        = (directoryOf chainText).put ["t.csv"] "n,m\n1,\n2,\n,3\n,4".toUTF8) ∧
    (runOf hurriedText listAndOne).1 = 2 ∧ (runOf hurriedText listAndOne).2.printed = "" ∧
      (runOf hurriedText listAndOne).2.disk = directoryOf hurriedText ∧
      (runOf hurriedText listAndOne).2.peer = listAndOne := by
  have hrun : Command.ofArguments ["c.yaml", "-o", "t.csv"]
      = .run ⟨"c.yaml", some "t.csv", false, 0, false⟩ := by cbv
  have hclient : Http.Client.ofSettings chain.settings = .ok chainClient := by decide +kernel
  have hread : Config.read chainText = .ok chain := by decide +kernel
  have hcheck : chain.check.2 = none := by decide +kernel
  have hhurried : Config.read hurriedText = .ok hurried := by decide +kernel
  have hall (config : String) (texts : List String) :=
    program_all_or_nothing answering Files.Directory.disk _ _ hrun
      ⟨texts, directoryOf config, "", []⟩ (runOf config texts).2 (runOf config texts).1 (Prod.eta _).symm
  have hchain (texts : List String) := ((hall chainText texts).2.2.2 chainText chain
    (readText_directoryOf chainText) hread).2 hcheck |>.2 chainClient hclient
  refine ⟨?_, ?_, ?_⟩
  · obtain ⟨hcode, huntouched⟩ := (hchain listAndOne).1 (by decide +kernel)
    exact ⟨hcode, huntouched.printed, huntouched.disk⟩
  · have hanswered := (hchain (listAndOne ++ [another])).2 (by decide +kernel)
    have htable : Delimited.ofRecords chain.delimiter
        ((Run.exchanges (chainClient.transport answering) chain.definitions
          (Run.State.initial (listAndOne ++ [another]))).flatMap Exchange.records)
        = "n,m\n1,\n2,\n,3\n,4" := by decide +kernel
    have hwalk : (directoryOf chainText).walk "t.csv" = .ok (.inside ["t.csv"]) := rfl
    have hwrite : (directoryOf chainText).writeText "t.csv" "n,m\n1,\n2,\n,3\n,4"
        = .ok ((directoryOf chainText).put ["t.csv"] "n,m\n1,\n2,\n,3\n,4".toUTF8) := by
      rw [Files.Directory.writeText, hwalk]
      rfl
    rw [htable] at hanswered
    obtain ⟨hcode, -, hdisk⟩ := hanswered.2 rfl _ hwrite
    exact ⟨hcode, hdisk⟩
  · obtain ⟨hcode, huntouched, hpeer⟩ := ((hall hurriedText listAndOne).2.2.2 hurriedText hurried
      (readText_directoryOf hurriedText) hhurried).1 _ rfl
    exact ⟨hcode, huntouched.printed, huntouched.disk, hpeer⟩

end Cli

end ApiChain
