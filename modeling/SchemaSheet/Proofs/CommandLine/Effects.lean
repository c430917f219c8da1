import SchemaSheet.Proofs.CommandLine.Course
import SchemaSheet.Proofs.CommandLine.Requests
import SchemaSheet.Proofs.Table.Halves
import SchemaSheet.Proofs.Transfer.Clipboard

/-!
# What a run leaves behind

A run that exits with zero has delivered its listing to the one sink that the
command line chooses, and nothing else has changed.  A run that exits with one
has printed nothing and changed no file, unless its sink fails after it has
begun to take the listing: the standard output may have taken a part of it, and
the output file has been emptied.  Where no call that writes or closes a file
fails, this happens only to a listing without octets, and what is read from
octets never has such a listing.
-/

namespace SchemaSheet

namespace Options

/-- The three sinks of runs. -/
inductive Chooses (options : Options) (world : World) : Sink → Prop where
  | clipboard (asked : options.toClipboard = true) :
      Chooses options world .clipboard
  | file {path : Text} (unasked : options.toClipboard = false)
      (named : given options.output = some path) :
      Chooses options world (.file (Path.ofText path))
  | standardOutput (unasked : options.toClipboard = false)
      (unnamed : given options.output = .none) :
      Chooses options world (.standardOutput [] world.output)

theorem chooses_sink (options : Options) (world : World) :
    options.Chooses world (options.sink world) := by
  unfold sink
  split
  · next asked => exact .clipboard asked
  · next unasked =>
      have unasked := Bool.eq_false_iff.mpr unasked
      split
      · next path named => exact .file unasked named
      · next unnamed => exact .standardOutput unasked unnamed

theorem received_sink (options : Options) (world : World) :
    (options.sink world).received = [] := by
  have chosen := options.chooses_sink world
  generalize options.sink world = sink at chosen
  cases chosen with
  | clipboard asked => rfl
  | file unasked named => rfl
  | standardOutput unasked unnamed => rfl

/-- The listing has reached the sink that the command line chooses, and nothing
else has changed. -/
inductive Delivers (options : Options) (world : World) (listing : Text)
    (outcome : Outcome) : Prop where
  | copied (asked : options.toClipboard = true) (output : outcome.output = [])
      (changed : outcome.desk = world.desk.copy listing) :
      Delivers options world listing outcome
  | filed {path : Text} {octets : List UInt8}
      (unasked : options.toClipboard = false)
      (named : given options.output = some path)
      (encoded : Utf8.encode .strict listing = .ok octets)
      (output : outcome.output = [])
      (clipboard : outcome.desk.clipboard = world.desk.clipboard)
      (files : world.desk.files.Rewrites (Path.ofText path) octets
        outcome.desk.files) :
      Delivers options world listing outcome
  | printed (unasked : options.toClipboard = false)
      (unnamed : given options.output = .none)
      (output : outcome.output = listing.asLine)
      (unchanged : outcome.desk = world.desk) :
      Delivers options world listing outcome

/-- The listing goes to the standard output, which fails after it has taken what
is shown. -/
def Spills (options : Options) (world : World) (listing shown : Text) : Prop :=
  options.toClipboard = false ∧ given options.output = .none
    ∧ ∃ reason, world.output.print listing.asLine = (shown, some reason)

/-- The listing goes to the output file, which is opened for it and left with
the octets when it fails to take the listing. -/
def Damages (options : Options) (world : World) (listing path : Text)
    (octets : List UInt8) : Prop :=
  options.toClipboard = false ∧ given options.output = some path
    ∧ world.desk.toDisk.Damages (Path.ofText path) listing octets

variable {options : Options} {world : World} {listing : Text}
  {outcome : Outcome}

theorem delivers_of_taken {sink : Sink} (chosen : options.Chooses world sink)
    (taken : (sink.deliver world.desk listing).fault = .none)
    (output : outcome.output
      = (sink.deliver world.desk listing).sink.received)
    (after : outcome.desk = (sink.deliver world.desk listing).desk) :
    options.Delivers world listing outcome := by
  cases chosen with
  | clipboard asked =>
      have filled := Sink.fillClipboard_of_taken taken
      exact .copied asked output (after.trans (congrArg world.desk.copy filled))
  | file unasked named =>
      obtain ⟨octets, encoded, files⟩ :=
        Sink.rewrites_deliverFile_of_taken taken
      refine .filed unasked named encoded output ?_ ?_
      · rw [after]
        rfl
      · rw [after]
        exact files
  | standardOutput unasked unnamed =>
      have whole := StreamCalls.print_of_taken (Option.map_eq_none_iff.mp taken)
      exact .printed unasked unnamed (output.trans whole) after

/-- A sink that refuses a listing prints nothing and changes no file, unless it
has begun to take the listing. -/
theorem kept_of_rejected {sink : Sink} (chosen : options.Chooses world sink)
    (rejected : (sink.deliver world.desk listing).fault ≠ .none) :
    ((∀ shown, ¬options.Spills world listing shown) →
        (sink.deliver world.desk listing).sink.received = [])
      ∧ ((∀ path octets, ¬options.Damages world listing path octets) →
        (sink.deliver world.desk listing).desk.files = world.desk.files) := by
  cases chosen with
  | clipboard asked => exact ⟨fun _ => rfl, fun _ => rfl⟩
  | file unasked named =>
      refine ⟨fun _ => rfl, ?_⟩
      intro sound
      have kept := Sink.desk_deliverFile_of_rejected rejected
        fun octets damages => sound _ octets ⟨unasked, named, damages⟩
      exact congrArg (fun desk => desk.files) kept
  | standardOutput unasked unnamed =>
      refine ⟨?_, fun _ => rfl⟩
      intro sound
      obtain ⟨reason, stopped⟩ := Option.ne_none_iff_exists'.mp
        (rejected ∘ Option.map_eq_none_iff.mpr)
      exact absurd ⟨unasked, unnamed, reason, Prod.ext rfl stopped⟩ (sound _)

theorem deliver_of_spills {shown : Text}
    (spills : options.Spills world listing shown) :
    ((options.sink world).deliver world.desk listing).fault ≠ .none
      ∧ ((options.sink world).deliver world.desk listing).sink.received
        = shown := by
  obtain ⟨unasked, unnamed, reason, stopped⟩ := spills
  have chosen : options.sink world = .standardOutput [] world.output := by
    simp only [sink, unasked, unnamed, Bool.false_eq_true, if_false]
  rw [chosen, Sink.deliver_standardOutput, stopped]
  exact ⟨Option.some_ne_none _, rfl⟩

theorem deliver_of_damages {path : Text} {octets : List UInt8}
    (damages : options.Damages world listing path octets) :
    ((options.sink world).deliver world.desk listing).fault ≠ .none
      ∧ world.desk.files.Rewrites (Path.ofText path) octets
        ((options.sink world).deliver world.desk listing).desk.files := by
  obtain ⟨unasked, named, damaged⟩ := damages
  have chosen : options.sink world = .file (Path.ofText path) := by
    simp only [sink, unasked, named, Bool.false_eq_true, if_false]
  rw [chosen]
  exact Sink.deliverFile_of_damages damaged

end Options

namespace CommandLine

variable {options : Options} {world : World} {settings : Settings}
  {start next : Session} {outcome : Outcome} {listing : Text}

/-- What is not read from the clipboard holds no half of a surrogate pair. -/
theorem isWhole_of_gives {text : Text} (gives : options.Gives world text)
    (uncopied : options.fromClipboard ≠ true) : text.IsWhole := by
  unfold Options.Gives at gives
  rw [if_neg uncopied] at gives
  split at gives
  · obtain ⟨octets, _, decoded⟩ := gives
    exact isWhole_of_readOctets decoded
  · exact isWhole_of_readOctets gives.2

section Deliveries

variable [Splitter]

/-- What the run has to deliver. -/
def Offers (options : Options) (world : World) (listing : Text) :
    Prop :=
  ∃ settings text, options.load world = .ok settings
    ∧ options.Gives world text ∧ settings.Lists text listing

/-- What a run leaves behind. -/
structure Effects (options : Options) (world : World) (outcome : Outcome) :
    Prop where
  exit : outcome.exitCode = 0 ∨ outcome.exitCode = 1
  delivered : outcome.exitCode = 0 → ∃ settings text listing,
    options.Resolves world settings ∧ options.Gives world text
      ∧ settings.Lists text listing
      ∧ options.Delivers world listing outcome
  silent : outcome.exitCode = 1 →
    (∀ listing shown, Offers options world listing →
      ¬options.Spills world listing shown) →
    outcome.output = []
  spilled : ∀ listing shown, Offers options world listing →
    options.Spills world listing shown →
    outcome.exitCode = 1 ∧ outcome.output = shown
  kept : outcome.exitCode = 1 →
    (∀ listing path octets, Offers options world listing →
      ¬options.Damages world listing path octets) →
    outcome.desk.files = world.desk.files
  damaged : ∀ listing path octets, Offers options world listing →
    options.Damages world listing path octets →
    outcome.exitCode = 1
      ∧ world.desk.files.Rewrites (Path.ofText path) octets outcome.desk.files
      ∧ (options.fromClipboard = true
        ∨ world.desk.calls.writing (Path.ofText path) ≠ none
        ∨ world.desk.calls.closing (Path.ofText path) ≠ none)

theorem isWhole_of_lists {text : Text} (whole : text.IsWhole)
    (lists : settings.Lists text listing) : listing.IsWhole := by
  obtain ⟨openings, table, _, parsed, rfl⟩ := lists
  exact (Table.isWhole_of_parse whole parsed).listing _

/-- What is read from octets does not damage the output file, unless a call that
writes or closes the file fails. -/
theorem failed_of_damages {path : Text} {octets : List UInt8}
    (offers : Offers options world listing)
    (damages : options.Damages world listing path octets) :
    options.fromClipboard = true
      ∨ world.desk.calls.writing (Path.ofText path) ≠ none
      ∨ world.desk.calls.closing (Path.ofText path) ≠ none := by
  by_cases copied : options.fromClipboard = true
  · exact .inl copied
  · refine .inr (Decidable.not_and_iff_not_or_not.mp ?_)
    rintro ⟨written, closed⟩
    obtain ⟨settings, text, _, gives, lists⟩ := offers
    have whole := isWhole_of_lists (isWhole_of_gives gives copied) lists
    obtain ⟨-, -, -, reason, filled⟩ := damages
    have taken :=
      FileCalls.fill_of_encode (whole.encode .strict) written closed
    cases filled.symm.trans taken

theorem Begins.offer_of_offers (begins : Begins options settings world start)
    (offers : Offers options world listing) :
    ∃ table, start.offer .transform = .ok ⟨listing, some table⟩ := by
  obtain ⟨other, text, loaded, gives, lists⟩ := offers
  obtain rfl := Except.ok.inj (begins.loaded.symm.trans loaded)
  exact begins.offers gives lists

theorem Begins.listing_of_offers (begins : Begins options settings world start)
    {offer : Offer} (offered : start.offer .transform = .ok offer)
    (offers : Offers options world listing) : listing = offer.listing := by
  obtain ⟨table, again⟩ := begins.offer_of_offers offers
  exact congrArg Offer.listing (Except.ok.inj (again.symm.trans offered))

theorem effects_of_idle (idle : ∀ listing, ¬Offers options world listing)
    (exit : outcome.exitCode = 1) (output : outcome.output = [])
    (unchanged : outcome.desk = world.desk) :
    Effects options world outcome :=
  { exit := .inr exit
    delivered := fun done => absurd (exit.symm.trans done) Nat.one_ne_zero
    silent := fun _ _ => output
    spilled := fun listing _ offers => absurd offers (idle listing)
    kept := fun _ _ => congrArg (fun desk => desk.files) unchanged
    damaged := fun listing _ _ offers => absurd offers (idle listing) }

theorem effects_of_rejected (begins : Begins options settings world start)
    {offer : Offer} (offered : start.offer .transform = .ok offer)
    (rejected : ((options.sink world).deliver world.desk offer.listing).fault
      ≠ none)
    (exit : outcome.exitCode = 1)
    (output : outcome.output
      = ((options.sink world).deliver world.desk offer.listing).sink.received)
    (after : outcome.desk
      = ((options.sink world).deliver world.desk offer.listing).desk) :
    Effects options world outcome := by
  have offers : Offers options world offer.listing := by
    obtain ⟨text, gives, lists⟩ := begins.lists offered
    exact ⟨settings, text, begins.loaded, gives, lists⟩
  obtain ⟨silent, kept⟩ :=
    Options.kept_of_rejected (options.chooses_sink world) rejected
  exact
    { exit := .inr exit
      delivered := fun done => absurd (exit.symm.trans done) Nat.one_ne_zero
      silent := by
        intro _ sound
        exact output.trans (silent fun shown => sound _ shown offers)
      spilled := by
        intro listing shown others spills
        obtain rfl := begins.listing_of_offers offered others
        exact ⟨exit, output.trans (Options.deliver_of_spills spills).2⟩
      kept := by
        intro _ sound
        rw [after]
        exact kept fun path octets => sound _ path octets offers
      damaged := by
        intro listing path octets others damages
        obtain rfl := begins.listing_of_offers offered others
        refine ⟨exit, ?_, failed_of_damages others damages⟩
        rw [after]
        exact (Options.deliver_of_damages damages).2 }

theorem effects_of_taken (begins : Begins options settings world start)
    {offer : Offer} (offered : start.offer .transform = .ok offer)
    (taken : ((options.sink world).deliver world.desk offer.listing).fault
      = none)
    (exit : outcome.exitCode = 0)
    (output : outcome.output
      = ((options.sink world).deliver world.desk offer.listing).sink.received)
    (after : outcome.desk
      = ((options.sink world).deliver world.desk offer.listing).desk) :
    Effects options world outcome := by
  obtain ⟨text, gives, lists⟩ := begins.lists offered
  have delivers :=
    Options.delivers_of_taken (options.chooses_sink world) taken output after
  exact
    { exit := .inl exit
      delivered := fun _ => ⟨settings, text, offer.listing,
        Options.resolves_of_load begins.loaded, gives, lists, delivers⟩
      silent := fun failed => absurd (exit.symm.trans failed) Nat.zero_ne_one
      spilled := by
        intro listing shown others spills
        obtain rfl := begins.listing_of_offers offered others
        exact absurd taken (Options.deliver_of_spills spills).1
      kept := fun failed => absurd (exit.symm.trans failed) Nat.zero_ne_one
      damaged := by
        intro listing path octets others damages
        obtain rfl := begins.listing_of_offers offered others
        exact absurd taken (Options.deliver_of_damages damages).1 }

end Deliveries

/-- A command line that moves the clipboard to a file. -/
def savingArguments : List Text := ["--from-clipboard", "--out", "out.tsv"]

def savingOptions : Options :=
  { Options.none with fromClipboard := true, output := some "out.tsv" }

/-- A table with a half of a surrogate pair in a comment. -/
def halvedScript : Text :=
  Text.ofString "CREATE TABLE t (a INT COMMENT '"
    ++ .half 0 :: Text.ofString "')"

def outputFile (octets : List UInt8) : FileTree :=
  [(["out.tsv"], .file octets)]

/-- The table is on the clipboard, and no call fails. -/
def savingWorld : World :=
  { desk :=
      { files := outputFile [0x6f]
        calls := .sound
        clipboard := ⟨halvedScript, .sound⟩ }
    input := []
    inputFault := none
    output := .encoding
    limits := ⟨some 4300, some 990⟩ }

end CommandLine

end SchemaSheet
