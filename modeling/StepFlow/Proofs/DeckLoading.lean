import StepFlow.Native.Host
import StepFlow.Proofs.Stream

namespace StepFlow

-- What is relied on when YAML is read from a file. A text is a value or no YAML. If the file breaks
-- off, its own error is passed on, unless what comes before is found to be no YAML.
structure Yaml.Reader.ReadsFile (yaml : Yaml.Reader) (bytes : List UInt8) : Prop where
  decodes : ∀ text : List Char, bytes = text.flatMap String.utf8EncodeChar →
    ∀ fault, yaml.read (.file (.ofBytes bytes)) ≠ .error fault
  breaks : ∀ bad, (Text.Stream.ofBytes bytes).broken? = some bad →
    yaml.read (.file (.ofBytes bytes)) = .ok none ∨
      yaml.read (.file (.ofBytes bytes)) = .error (.undecodable bad)

-- The reader at hand keeps to this, unless the file has a number that it cannot convert.
theorem Yaml.readsFile_subset {bytes : List UInt8}
    (h : (Text.Stream.ofBytes bytes).broken? = none →
      ∀ fault, Yaml.value? (Text.Stream.ofBytes bytes).characters ≠ .error fault) :
    Yaml.subset.ReadsFile bytes := by
  have hbroken := Text.Stream.broken?_ofBytes_eq_none_iff bytes
  generalize hstream : Text.Stream.ofBytes bytes = stream at h hbroken
  obtain ⟨characters, broken?⟩ := stream
  refine ⟨fun text htext => ?_, fun bad hbad => ?_⟩
  · obtain rfl : broken? = none := hbroken.mpr ⟨text, htext⟩
    rw [hstream]
    exact h rfl
  · rw [hstream] at hbad ⊢
    obtain rfl : broken? = some bad := hbad
    exact .inr rfl

namespace DeckFile

-- A deck is loaded, which gives a dict, or it is reported.
def Reported (outcome : Except Fault Value) : Prop :=
  (∃ entries, outcome = .ok (.dict entries)) ∨ ∃ cause, outcome = .error (.deck cause)

-- What can be at a path: nothing, a file that holds the encoding of a text, or one that is found to
-- be no YAML before its bytes do not decode.
inductive Reportable (yaml : Yaml.Reader) : PathTarget → Prop
  | missing : Reportable yaml .missing
  | text (text : List Char) : Reportable yaml (.file (text.flatMap String.utf8EncodeChar))
  | malformed {bytes : List UInt8} : yaml.read (.file (.ofBytes bytes)) = .ok none →
      Reportable yaml (.file bytes)

-- What is at a path instead, and the error that it ends in.
inductive Escapes (shown : String) : PathTarget → Fault → Prop
  | tooLong : Escapes shown .tooLong (.pathTooLong shown)
  | directory : Escapes shown .directory (.isDirectory shown)
  | bytes {bytes : List UInt8} {bad : Text.Undecodable} :
      (∀ text : List Char, bytes ≠ text.flatMap String.utf8EncodeChar) →
      (Text.Stream.ofBytes bytes).broken? = some bad →
      Escapes shown (.file bytes) (.undecodable bad)

theorem reported_payloadOf (shown : String) (v? : Option Value) :
    Reported (payloadOf shown v?) := by
  cases v? with
  | none => exact .inr ⟨_, rfl⟩
  | some v =>
      cases v with
      | dict entries => exact .inl ⟨entries, rfl⟩
      | _ => exact .inr ⟨_, rfl⟩

section

variable {world : World} {path : String}

theorem load_file {bytes : List UInt8} (h : world.lookup path = .file bytes) :
    load world path =
      world.yaml.read (.file (.ofBytes bytes)) >>= payloadOf (Path.shown path) := by
  simp only [load, h]

-- What is read from a file is loaded or reported.
theorem reported_of_read {bytes : List UInt8} {v? : Option Value}
    (h : world.lookup path = .file bytes)
    (hread : world.yaml.read (.file (.ofBytes bytes)) = .ok v?) :
    Reported (load world path) := by
  rw [load_file h, hread]
  exact reported_payloadOf _ v?

theorem Escapes.isPipeline {shown : String} {target : PathTarget} {fault : Fault}
    (h : Escapes shown target fault) : fault.category.isPipeline = false := by
  cases h <;> rfl

-- Whatever is at a path is loaded or reported, or it escapes.
theorem load_cases
    (h : ∀ bytes, world.lookup path = .file bytes → world.yaml.ReadsFile bytes) :
    (Reportable world.yaml (world.lookup path) ∧ Reported (load world path)) ∨
    (¬ Reportable world.yaml (world.lookup path) ∧ ∃ fault,
      Escapes (Path.shown path) (world.lookup path) fault ∧ load world path = .error fault) := by
  cases htarget : world.lookup path with
  | missing => exact .inl ⟨.missing, .inr ⟨_, by simp only [load, htarget]; rfl⟩⟩
  | tooLong => exact .inr ⟨nofun, _, .tooLong, by simp only [load, htarget]⟩
  | directory => exact .inr ⟨nofun, _, .directory, by simp only [load, htarget]⟩
  | file bytes =>
      obtain ⟨hdecodes, hbreaks⟩ := h bytes htarget
      cases hbroken : (Text.Stream.ofBytes bytes).broken? with
      | none =>
          obtain ⟨text, rfl⟩ := (Text.Stream.broken?_ofBytes_eq_none_iff bytes).mp hbroken
          cases hread : world.yaml.read (.file (.ofBytes _)) with
          | ok v? => exact .inl ⟨.text text, reported_of_read htarget hread⟩
          | error fault => exact absurd hread (hdecodes text rfl fault)
      | some bad =>
          have hnone (text : List Char) : bytes ≠ text.flatMap String.utf8EncodeChar := fun htext =>
            nomatch hbroken.symm.trans
              ((Text.Stream.broken?_ofBytes_eq_none_iff bytes).mpr ⟨text, htext⟩)
          obtain hread | hread := hbreaks bad hbroken
          · exact .inl ⟨.malformed hread, reported_of_read htarget hread⟩
          · refine .inr ⟨fun hreportable => ?_, _, .bytes hnone hbroken, ?_⟩
            · cases hreportable with
              | text text => exact hnone text rfl
              | malformed hmalformed => cases hread.symm.trans hmalformed
            · rw [load_file htarget, hread]
              rfl

-- A deck that is not loaded is not run.
theorem run_of_load_eq_error {fault : Fault} (h : load world path = .error fault) (host : Host)
    (registry : Registry) (args : Value) :
    run world host registry path args = Run.fail fault := by
  rw [run, runWith, h]
  rfl

end

end DeckFile

-- The command line reports deck errors, and no others.
theorem Command.runDeck_of_load_eq_error {world : World} {path : String} {fault : Fault}
    (h : DeckFile.load world path = .error fault) (host : Host) (args : Value) :
    runDeck world host path args =
      if fault.category.isPipeline then
        Run.emit (.complaint s!"Error: {fault.message}\n") >>= fun _ => Run.fail (.exit failure)
      else Run.fail fault := by
  rw [runDeck, DeckFile.run_of_load_eq_error h]
  rfl

namespace DeckFile

-- A deck is loaded or reported exactly if there is nothing at its path, or a file that holds the
-- encoding of a text or is found to be no YAML before its bytes do not decode. The command line
-- reports it where it can be; whatever else is at its path passes through it as an error that is
-- none of the library's own.
theorem load_reported_iff (world : World) (path : String)
    (h : ∀ bytes, world.lookup path = .file bytes → world.yaml.ReadsFile bytes) :
    (Reported (load world path) ↔ Reportable world.yaml (world.lookup path)) ∧
    (∀ cause, load world path = .error (.deck cause) → ∀ host args store,
      (run world host Registry.default path args store).outcome = .error (.deck cause) ∧
      Command.runDeck world host path args store =
        ⟨.error (.exit 2), [.complaint s!"Error: {cause.message}\n"], store⟩) ∧
    (¬ Reportable world.yaml (world.lookup path) → ∃ fault,
      Escapes (Path.shown path) (world.lookup path) fault ∧
      fault.category.isPipeline = false ∧ load world path = .error fault ∧
      ∀ host args store,
        run world host Registry.default path args store = ⟨.error fault, [], store⟩ ∧
        Command.runDeck world host path args store = ⟨.error fault, [], store⟩) := by
  refine ⟨⟨fun hreported => ?_, fun hreportable => ?_⟩, ?_, ?_⟩
  · obtain ⟨hreportable, -⟩ | ⟨-, fault, hescapes, hload⟩ := load_cases h
    · exact hreportable
    · obtain ⟨entries, hdict⟩ | ⟨cause, hdeck⟩ := hreported
      · exact nomatch hload.symm.trans hdict
      · cases hload.symm.trans hdeck
        exact nomatch hescapes.isPipeline
  · obtain ⟨-, hreported⟩ | ⟨hnot, -⟩ := load_cases h
    · exact hreported
    · exact absurd hreportable hnot
  · intro cause hload host args store
    rw [run_of_load_eq_error hload, Command.runDeck_of_load_eq_error hload]
    exact ⟨rfl, rfl⟩
  · intro hnot
    obtain ⟨hreportable, -⟩ | ⟨-, fault, hescapes, hload⟩ := load_cases h
    · exact absurd hreportable hnot
    · refine ⟨fault, hescapes, hescapes.isPipeline, hload, fun host args store => ?_⟩
      rw [run_of_load_eq_error hload, Command.runDeck_of_load_eq_error hload,
        hescapes.isPipeline]
      exact ⟨rfl, rfl⟩

-- A list that is not closed is reported. One that is broken off by a byte that starts no character
-- is not.
theorem load_reported_unclosed :
    let world : World :=
      ⟨fun path => .file (if path = "open.yaml" then [0x5B, 0x31] else [0x5B, 0xFF]),
        Catalogue.withModules []⟩
    (∀ bytes, world.lookup "open.yaml" = .file bytes → world.yaml.ReadsFile bytes) ∧
    (∀ bytes, world.lookup "cut.yaml" = .file bytes → world.yaml.ReadsFile bytes) ∧
    Reported (load world "open.yaml") ∧
    ∀ args store, Command.runDeck world world.host "cut.yaml" args store =
      ⟨.error (.undecodable ⟨.invalidStart, 1, 1, 0xFF⟩), [], store⟩ := by
  intro world
  have hopen : ∀ bytes, world.lookup "open.yaml" = .file bytes → world.yaml.ReadsFile bytes := by
    intro bytes hbytes
    cases hbytes
    exact Yaml.readsFile_subset (by decide +kernel)
  have hcut : ∀ bytes, world.lookup "cut.yaml" = .file bytes → world.yaml.ReadsFile bytes := by
    intro bytes hbytes
    cases hbytes
    exact Yaml.readsFile_subset (by decide +kernel)
  obtain ⟨hreported, -, -⟩ := load_reported_iff world "open.yaml" hopen
  obtain ⟨hiff, -, hescapes⟩ := load_reported_iff world "cut.yaml" hcut
  refine ⟨hopen, hcut, hreported.mpr (.text ['[', '1']), fun args store => ?_⟩
  have hload : load world "cut.yaml" = .error (.undecodable ⟨.invalidStart, 1, 1, 0xFF⟩) := rfl
  have hnot : ¬ Reportable world.yaml (world.lookup "cut.yaml") := by
    rw [← hiff, hload]
    rintro (⟨_, h⟩ | ⟨_, h⟩) <;> cases h
  obtain ⟨fault, -, -, hfault, hrun⟩ := hescapes hnot
  cases hfault.symm.trans hload
  exact (hrun world.host args store).2

-- A file of one byte that starts no character, and a directory.
theorem load_unreported :
    let undecodable : World := ⟨fun _ => .file [0xFF], Catalogue.withModules []⟩
    let directory : World := ⟨fun _ => .directory, Catalogue.withModules []⟩
    undecodable.yaml.ReadsFile [0xFF] ∧
    (∃ fault, load undecodable "deck.yaml" = .error fault ∧ fault.category = .decoding ∧
      ¬ Reported (load undecodable "deck.yaml")) ∧
    ∃ fault, load directory "sub" = .error fault ∧ fault.category = .directory ∧
      ¬ Reported (load directory "sub") := by
  intro undecodable directory
  have hbytes : load undecodable "deck.yaml" =
      .error (.undecodable ⟨.invalidStart, 0, 1, 0xFF⟩) := rfl
  have hdirectory : load directory "sub" = .error (.isDirectory (Path.shown "sub")) := rfl
  refine ⟨Yaml.readsFile_subset nofun, ⟨_, hbytes, rfl, ?_⟩, ⟨_, hdirectory, rfl, ?_⟩⟩
  · rw [hbytes]
    rintro (⟨_, h⟩ | ⟨_, h⟩) <;> cases h
  · rw [hdirectory]
    rintro (⟨_, h⟩ | ⟨_, h⟩) <;> cases h

end DeckFile

end StepFlow
