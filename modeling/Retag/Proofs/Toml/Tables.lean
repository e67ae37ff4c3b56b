import Retag.Proofs.Toml.Rest
import Retag.Toml.Parse

/-! What all tables of a document have in common. A property that an empty table has, and that a table keeps
when it grows by a key that was read, holds of every table of a document, however its keys came together:
between braces, behind headers, by dotted keys or from a table that was only implied before.
-/

set_option autoImplicit false

namespace Retag.Toml

inductive Node.Every (good : Entries → Prop) : Node → Prop where
  | text (span : Span) (value : String) : Every good (.text span value)
  | integer (span : Span) (value : Int) : Every good (.integer span value)
  | float (span : Span) (value : Binary64) : Every good (.float span value)
  | boolean (span : Span) (value : Bool) : Every good (.boolean span value)
  | moment (span : Span) : Every good (.moment span)
  | array {span : Span} {items : List Node} : (∀ item ∈ items, Every good item) →
      Every good (.array span items)
  | table {span? : Option Span} {form : Form} {entries : List (Key × Node)} : good entries →
      (∀ entry ∈ entries, Every good entry.2) → Every good (.table span? form entries)
  | tables {items : List Node} : (∀ item ∈ items, Every good item) → Every good (.tables items)

variable {keyed : Key → Prop} {good : Entries → Prop}

theorem Node.every_tables_iff {items : List Node} :
    (Node.tables items).Every good ↔ ∀ item ∈ items, item.Every good := by
  constructor
  · rintro ⟨⟩
    assumption
  · exact .tables

namespace Entries

structure Every (good : Entries → Prop) (entries : Entries) : Prop where
  here : good entries
  below : ∀ entry ∈ entries, entry.2.Every good

theorem every_table_iff {span? : Option Span} {form : Form} {entries : Entries} :
    (Node.table span? form entries).Every good ↔ entries.Every good := by
  constructor
  · rintro ⟨⟩
    exact ⟨‹_›, ‹_›⟩
  · rintro ⟨here, below⟩
    exact .table here below

theorem mem_of_get? {name : String} {node : Node} {entries : Entries}
    (found : entries.get? name = some node) : ∃ key, (key, node) ∈ entries ∧ key.name = name := by
  obtain ⟨⟨key, node⟩, first, rfl⟩ := Option.map_eq_some_iff.1 found
  exact ⟨key, List.mem_of_find?_eq_some first, by simpa using List.find?_some first⟩

theorem Every.get? {entries : Entries} (every : entries.Every good) {name : String} {node : Node}
    (found : entries.get? name = some node) : node.Every good := by
  obtain ⟨key, among, -⟩ := mem_of_get? found
  exact every.below _ among

/-- A property of one table alone that it keeps as it grows by keys of a kind. -/
structure Grows (keyed : Key → Prop) (good : Entries → Prop) : Prop where
  nil : good []
  concat {entries : Entries} {key : Key} (node : Node) : good entries → entries.get? key.name = none →
    keyed key → good (entries ++ [(key, node)])
  replace {entries : Entries} (name : String) (node : Node) : good entries → good (entries.replace name node)
  remove {entries : Entries} (name : String) : good entries → good (entries.remove name)

namespace Grows

variable (grows : Grows keyed good)

include grows

theorem every_nil : Every good [] := ⟨grows.nil, List.forall_mem_nil _⟩

theorem every_concat {entries : Entries} {key : Key} {node : Node} (every : entries.Every good)
    (fresh : entries.get? key.name = none) (isKeyed : keyed key) (sound : node.Every good) :
    Every good (entries ++ [(key, node)]) where
  here := grows.concat node every.here fresh isKeyed
  below := by
    intro entry among
    rcases List.mem_append.1 among with among | among
    · exact every.below entry among
    · rw [List.mem_singleton.1 among]
      exact sound

theorem every_replace {entries : Entries} (every : entries.Every good) (name : String) {node : Node}
    (sound : node.Every good) : Every good (entries.replace name node) where
  here := grows.replace name node every.here
  below := by
    intro entry among
    obtain ⟨before, present, rfl⟩ := List.mem_map.1 among
    split
    · exact sound
    · exact every.below before present

theorem every_remove {entries : Entries} (every : entries.Every good) (name : String) :
    Every good (entries.remove name) where
  here := grows.remove name every.here
  below := fun entry among => every.below entry (List.mem_filter.1 among).1

theorem every_add {key : Key} {node : Node} (isKeyed : keyed key) (sound : node.Every good)
    {entries result : Entries} (every : entries.Every good) (added : add key node entries = some result) :
    result.Every good := by
  unfold add at added
  split at added
  · cases added
  · next fresh =>
    cases added
    exact grows.every_concat every (by simpa using fresh) isKeyed sound

end Grows

def KeepsEvery (good : Entries → Prop) (update : Form → Entries → Option Entries) : Prop :=
  ∀ form entries result, entries.Every good → update form entries = some result → result.Every good

namespace Grows

variable (grows : Grows keyed good)

include grows

theorem keepsEvery_updateAt (made : Form) {update : Form → Entries → Option Entries}
    (keeps : KeepsEvery good update) {path : List Key} (areKeyed : ∀ key ∈ path, keyed key) :
    KeepsEvery good (updateAt made update path) := by
  induction path with
  | nil => exact keeps
  | cons key path ih =>
    obtain ⟨isKeyed, others⟩ := List.forall_mem_cons.1 areKeyed
    have onward := ih others
    intro form entries result every updated
    rw [updateAt] at updated
    split at updated
    · next fresh =>
      obtain ⟨inner, changed, same⟩ := Option.bind_eq_some_iff.1 updated
      cases same
      exact grows.every_concat every fresh isKeyed
        (every_table_iff.2 (onward _ _ _ grows.every_nil changed))
    · next span? form inner found =>
      split at updated
      · cases updated
      · obtain ⟨inner, changed, same⟩ := Option.bind_eq_some_iff.1 updated
        cases same
        have below := every_table_iff.1 (every.get? found)
        exact grows.every_replace every _ (every_table_iff.2 (onward _ _ _ below changed))
    · next items found =>
      split at updated
      · next span? form inner last =>
        obtain ⟨inner, changed, same⟩ := Option.bind_eq_some_iff.1 updated
        cases same
        -- Only the last one of several tables changes.
        have items := Node.every_tables_iff.1 (every.get? found)
        have below := every_table_iff.1 (items _ (List.mem_of_getLast? last))
        refine grows.every_replace every _ (Node.every_tables_iff.2 fun item among => ?_)
        rcases List.mem_append.1 among with among | among
        · exact items item ((List.dropLast_sublist _).subset among)
        · rw [List.mem_singleton.1 among]
          exact every_table_iff.2 (onward _ _ _ below changed)
      · cases updated
    · cases updated

theorem every_addAt (made : Form) {path : List Key} (areKeyed : ∀ key ∈ path, keyed key) {key : Key}
    {node : Node} (isKeyed : keyed key) (sound : node.Every good) (form : Form) {entries result : Entries}
    (every : entries.Every good) (added : addAt made path key node form entries = some result) :
    result.Every good := by
  refine grows.keepsEvery_updateAt made ?_ areKeyed form entries result every added
  intro form entries result every added
  dsimp only at added
  split at added
  · cases added
  · exact grows.every_add isKeyed sound every added

end Grows

end Entries

open Entries (Grows KeepsEvery every_table_iff)

/-! ## Values -/

/-- On each end of the text, the reader reads what holds and leaves an end of the text. -/
def Reader.Reads {Result : Type} (text : List Char) (holds : Result → Prop) (reader : Reader Result) : Prop :=
  ∀ input result rest, input <:+ text → reader input = some (result, rest) → holds result ∧ rest <:+ text

variable {text : List Char}

theorem keyPartsWithin_reads (keys : simpleKey.Reads text keyed) (fuel : Nat) :
    (keyPartsWithin fuel).Reads text fun parts => ∀ key ∈ parts, keyed key := by
  induction fuel with
  | zero => exact fun input parts rest inside read => nomatch read
  | succ fuel ih =>
    intro input parts rest inside read
    obtain ⟨⟨key, behind⟩, first, read⟩ := Option.bind_eq_some_iff.1 read
    obtain ⟨isKeyed, inside⟩ := keys _ _ _ ((skipBlanks_suffix _).trans inside) first
    have blanks := (skipBlanks_suffix behind).trans inside
    dsimp only at read
    split at read
    · next after shape =>
      rw [shape] at blanks
      obtain ⟨⟨more, behind⟩, others, same⟩ := Option.bind_eq_some_iff.1 read
      cases same
      obtain ⟨areKeyed, inside⟩ := ih _ _ _ ((List.suffix_cons _ _).trans blanks) others
      exact ⟨List.forall_mem_cons.2 ⟨isKeyed, areKeyed⟩, inside⟩
    · cases read
      exact ⟨List.forall_mem_singleton.2 isKeyed, blanks⟩

theorem dottedKey_reads (keys : simpleKey.Reads text keyed) :
    dottedKey.Reads text fun found => (∀ key ∈ found.1, keyed key) ∧ keyed found.2 := by
  intro input found rest inside read
  obtain ⟨⟨parts, behind⟩, among, read⟩ := Option.bind_eq_some_iff.1 read
  obtain ⟨last, isLast, same⟩ := Option.bind_eq_some_iff.1 read
  cases same
  obtain ⟨areKeyed, inside⟩ := keyPartsWithin_reads keys _ _ _ _ inside among
  exact ⟨⟨fun key member => areKeyed key ((List.dropLast_sublist _).subset member),
    areKeyed last (List.mem_of_getLast? isLast)⟩, inside⟩

theorem scalar_reads : scalar.Reads text (Node.Every good) := by
  intro input node rest inside read
  refine ⟨?_, (scalar_takesFront _ _ _ read).trans inside⟩
  unfold scalar at read
  split at read
  · obtain ⟨⟨⟨⟨⟩, span⟩, rest⟩, -, same⟩ := Option.bind_eq_some_iff.1 read
    cases same
    exact .boolean _ _
  · obtain ⟨⟨⟨⟨⟩, span⟩, rest⟩, -, same⟩ := Option.bind_eq_some_iff.1 read
    cases same
    exact .boolean _ _
  · obtain ⟨⟨⟨value, span⟩, rest⟩, -, same⟩ := Option.bind_eq_some_iff.1 read
    cases same
    exact .text _ _
  · obtain ⟨⟨⟨value, span⟩, rest⟩, -, same⟩ := Option.bind_eq_some_iff.1 read
    cases same
    exact .text _ _
  · split at read
    · cases read
      exact .moment _
    · obtain ⟨⟨⟨value, span⟩, rest⟩, -, same⟩ := Option.bind_eq_some_iff.1 read
      cases value <;> cases same
      · exact .integer _ _
      · exact .float _ _

section

variable {reader : Reader Node}

theorem itemsWithin_reads (reads : reader.Reads text (Node.Every good)) (fuel : Nat) :
    (itemsWithin reader fuel).Reads text fun items => ∀ item ∈ items, item.Every good := by
  induction fuel with
  | zero => exact fun input items rest inside read => nomatch read
  | succ fuel ih =>
    intro input items rest inside read
    unfold itemsWithin at read
    obtain ⟨begun, skips, read⟩ := Option.bind_eq_some_iff.1 read
    have inside := (skipLines_suffix skips).trans inside
    split at read
    · cases read
      exact ⟨List.forall_mem_nil _, (List.suffix_cons _ _).trans inside⟩
    · obtain ⟨⟨item, behind⟩, first, read⟩ := Option.bind_eq_some_iff.1 read
      obtain ⟨after, skips, read⟩ := Option.bind_eq_some_iff.1 read
      obtain ⟨sound, inside⟩ := reads _ _ _ inside first
      have inside := (skipLines_suffix skips).trans inside
      split at read
      · obtain ⟨⟨more, behind⟩, others, same⟩ := Option.bind_eq_some_iff.1 read
        cases same
        obtain ⟨below, inside⟩ := ih _ _ _ ((List.suffix_cons _ _).trans inside) others
        exact ⟨List.forall_mem_cons.2 ⟨sound, below⟩, inside⟩
      · cases read
        exact ⟨List.forall_mem_singleton.2 sound, (List.suffix_cons _ _).trans inside⟩
      · cases read

theorem keyValue_reads (keys : simpleKey.Reads text keyed) (reads : reader.Reads text (Node.Every good)) :
    (keyValue reader).Reads text fun found =>
      (∀ key ∈ found.1, keyed key) ∧ keyed found.2.1 ∧ found.2.2.Every good := by
  intro input found rest inside read
  obtain ⟨⟨⟨path, key⟩, behind⟩, dotted, read⟩ := Option.bind_eq_some_iff.1 read
  obtain ⟨⟨⟨⟩, after⟩, equals, read⟩ := Option.bind_eq_some_iff.1 read
  obtain ⟨⟨node, left_⟩, found, same⟩ := Option.bind_eq_some_iff.1 read
  cases same
  obtain ⟨⟨areKeyed, isKeyed⟩, inside⟩ := dottedKey_reads keys _ _ _ inside dotted
  have inside := (skipBlanks_suffix _).trans ((char_takesFront _ _ _ _ equals).trans inside)
  obtain ⟨sound, inside⟩ := reads _ _ _ inside found
  exact ⟨⟨areKeyed, isKeyed, sound⟩, inside⟩

theorem pairsWithin_reads (grows : Grows keyed good) (keys : simpleKey.Reads text keyed)
    (reads : reader.Reads text (Node.Every good)) (fuel : Nat) {entries : Entries} (every : entries.Every good) :
    (pairsWithin reader fuel entries).Reads text (Entries.Every good) := by
  induction fuel generalizing entries with
  | zero => exact fun input result rest inside read => nomatch read
  | succ fuel ih =>
    intro input result rest inside read
    unfold pairsWithin at read
    obtain ⟨⟨⟨path, key, node⟩, behind⟩, pair, read⟩ := Option.bind_eq_some_iff.1 read
    obtain ⟨grown, added, read⟩ := Option.bind_eq_some_iff.1 read
    obtain ⟨⟨areKeyed, isKeyed, sound⟩, inside⟩ := keyValue_reads keys reads _ _ _ inside pair
    have sound := grows.every_addAt _ areKeyed isKeyed sound _ every added
    have blanks := (skipBlanks_suffix behind).trans inside
    split at read
    · next after shape =>
      rw [shape] at blanks
      exact ih sound _ _ _ ((List.suffix_cons _ _).trans blanks) read
    · next after shape =>
      rw [shape] at blanks
      cases read
      exact ⟨sound, (List.suffix_cons _ _).trans blanks⟩
    · cases read

theorem inlineTable_reads (grows : Grows keyed good) (keys : simpleKey.Reads text keyed)
    (reads : reader.Reads text (Node.Every good)) : (inlineTable reader).Reads text (Entries.Every good) := by
  intro input entries rest inside read
  unfold inlineTable at read
  have blanks := (skipBlanks_suffix input).trans inside
  split at read
  · next after shape =>
    rw [shape] at blanks
    cases read
    exact ⟨grows.every_nil, (List.suffix_cons _ _).trans blanks⟩
  · exact pairsWithin_reads grows keys reads _ grows.every_nil _ _ _ blanks read

end

theorem value_reads (grows : Grows keyed good) (keys : simpleKey.Reads text keyed) (depth : Nat) :
    (value depth).Reads text (Node.Every good) := by
  induction depth with
  | zero => exact scalar_reads
  | succ depth ih =>
    intro input node rest inside read
    unfold value at read
    split at read
    · obtain ⟨⟨items, behind⟩, found, same⟩ := Option.bind_eq_some_iff.1 read
      cases same
      obtain ⟨sound, inside⟩ := itemsWithin_reads ih _ _ _ _ ((List.suffix_cons _ _).trans inside) found
      exact ⟨.array sound, inside⟩
    · obtain ⟨⟨entries, behind⟩, found, same⟩ := Option.bind_eq_some_iff.1 read
      cases same
      obtain ⟨sound, inside⟩ := inlineTable_reads grows keys ih _ _ _ ((List.suffix_cons _ _).trans inside) found
      exact ⟨every_table_iff.2 sound, inside⟩
    · exact scalar_reads _ _ _ inside read

/-! ## Documents -/

namespace Progress

structure Every (keyed : Key → Prop) (good : Entries → Prop) (progress : Progress) : Prop where
  closed : progress.closed.Every good
  path : ∀ key ∈ progress.path, keyed key
  current : progress.current.Every good

variable (grows : Grows keyed good)

include grows

theorem every_start : start.Every keyed good :=
  ⟨grows.every_nil, List.forall_mem_nil _, grows.every_nil⟩

theorem every_addRepeated {key : Key} {node : Node} (isKeyed : keyed key) (sound : node.Every good)
    {entries result : Entries} (every : entries.Every good) (added : addRepeated key node entries = some result) :
    result.Every good := by
  unfold addRepeated at added
  split at added
  · next fresh =>
    cases added
    exact grows.every_concat every fresh isKeyed (.tables (List.forall_mem_singleton.2 sound))
  · next items found =>
    cases added
    refine grows.every_replace every _ (.tables fun item among => ?_)
    rcases List.mem_append.1 among with among | among
    · exact Node.every_tables_iff.1 (every.get? found) item among
    · rw [List.mem_singleton.1 among]
      exact sound
  · cases added

theorem every_close {progress : Progress} (every : progress.Every keyed good) {entries : Entries}
    (closes : progress.close = some entries) : entries.Every good := by
  unfold close at closes
  split at closes
  · cases closes
    exact every.current
  · next key last =>
    have sound : (Node.table progress.span? .header progress.current).Every good :=
      every_table_iff.2 every.current
    have isKeyed := every.path key (List.mem_of_getLast? last)
    have above (key : Key) (member : key ∈ progress.path.dropLast) : keyed key :=
      every.path key ((List.dropLast_sublist _).subset member)
    refine grows.keepsEvery_updateAt .implied ?_ above _ _ _ every.closed closes
    intro form entries result every put
    dsimp only at put
    split at put
    · exact every_addRepeated grows isKeyed sound every put
    · exact grows.every_add isKeyed sound every put

theorem every_takeImplied {key : Key} {entries inner : Entries} (every : entries.Every good)
    (taken : takeImplied key entries = some inner) : inner.Every good := by
  unfold takeImplied at taken
  split at taken
  · cases taken
    exact grows.every_nil
  · next found =>
    cases taken
    exact every_table_iff.1 (every.get? found)
  · cases taken

theorem every_openRepeated {key : Key} (isKeyed : keyed key) {entries result : Entries}
    (every : entries.Every good) (opened : openRepeated key entries = some result) : result.Every good := by
  unfold openRepeated at opened
  split at opened
  · next fresh =>
    cases opened
    exact grows.every_concat every fresh isKeyed (.tables (List.forall_mem_nil _))
  · cases opened
    exact every
  · cases opened

omit grows in
theorem every_lookAt {path : List Key} {entries inner : Entries} (every : entries.Every good)
    (led : lookAt path entries = some inner) : inner.Every good := by
  induction path generalizing entries with
  | nil =>
    cases led
    exact every
  | cons key path ih =>
    unfold lookAt at led
    split at led
    · next found => exact ih (every_table_iff.1 (every.get? found)) led
    · next items found =>
      split at led
      · next last =>
        have items := Node.every_tables_iff.1 (every.get? found)
        exact ih (every_table_iff.1 (items _ (List.mem_of_getLast? last))) led
      · cases led
    · cases led

theorem every_openTable {progress opened : Progress} (every : progress.Every keyed good) {path : List Key}
    (areKeyed : ∀ key ∈ path, keyed key) {repeated : Bool} {span : Span}
    (opens : progress.openTable path repeated span = some opened) : opened.Every keyed good := by
  obtain ⟨closed, closes, opens⟩ := Option.bind_eq_some_iff.1 opens
  obtain ⟨key, last, opens⟩ := Option.bind_eq_some_iff.1 opens
  have sound := every_close grows every closes
  have isKeyed := areKeyed key (List.mem_of_getLast? last)
  have above (key : Key) (member : key ∈ path.dropLast) : keyed key :=
    areKeyed key ((List.dropLast_sublist _).subset member)
  dsimp only at opens
  split at opens
  · obtain ⟨ready, makes, same⟩ := Option.bind_eq_some_iff.1 opens
    cases same
    refine ⟨grows.keepsEvery_updateAt .implied ?_ above _ _ _ sound makes, areKeyed, grows.every_nil⟩
    exact fun form entries result => every_openRepeated grows isKeyed
  · obtain ⟨made, makes, opens⟩ := Option.bind_eq_some_iff.1 opens
    obtain ⟨reached, led, opens⟩ := Option.bind_eq_some_iff.1 opens
    obtain ⟨inner, taken, opens⟩ := Option.bind_eq_some_iff.1 opens
    obtain ⟨ready, removes, same⟩ := Option.bind_eq_some_iff.1 opens
    cases same
    -- The way to the header's table is made first; then an implied table there gives up its keys.
    have throughout : made.Every good := by
      refine grows.keepsEvery_updateAt .implied ?_ above _ _ _ sound makes
      intro form entries result every same
      cases same
      exact every
    refine ⟨grows.keepsEvery_updateAt .implied ?_ above _ _ _ throughout removes, areKeyed,
      every_takeImplied grows (every_lookAt throughout led) taken⟩
    intro form entries result every same
    cases same
    exact grows.every_remove every _

theorem every_addKey {progress grown : Progress} (every : progress.Every keyed good) {path : List Key}
    (areKeyed : ∀ key ∈ path, keyed key) {key : Key} (isKeyed : keyed key) {node : Node}
    (sound : node.Every good) (adds : progress.addKey path key node = some grown) : grown.Every keyed good := by
  obtain ⟨current, added, same⟩ := Option.bind_eq_some_iff.1 adds
  cases same
  exact ⟨every.closed, every.path, grows.every_addAt _ areKeyed isKeyed sound _ every.current added⟩

end Progress

theorem header_reads (keys : simpleKey.Reads text keyed) :
    header.Reads text fun found => ∀ key ∈ found.1, keyed key := by
  intro input found rest inside read
  obtain ⟨⟨⟨path, key⟩, behind⟩, dotted, read⟩ := Option.bind_eq_some_iff.1 read
  obtain ⟨⟨⟨⟩, after⟩, closed, same⟩ := Option.bind_eq_some_iff.1 read
  cases same
  obtain ⟨⟨areKeyed, isKeyed⟩, inside⟩ := dottedKey_reads keys _ _ _ ((List.drop_suffix _ _).trans inside) dotted
  exact ⟨List.forall_mem_append.2 ⟨areKeyed, List.forall_mem_singleton.2 isKeyed⟩,
    (word_takesFront _ _ _ _ closed).trans inside⟩

theorem linesWithin_every (grows : Grows keyed good) (keys : simpleKey.Reads text keyed) (fuel : Nat)
    {progress : Progress} (every : progress.Every keyed good) {input : List Char} (inside : input <:+ text)
    {document : Entries} (read : linesWithin fuel progress input = some document) : document.Every good := by
  induction fuel generalizing progress input with
  | zero => cases read
  | succ fuel ih =>
    unfold linesWithin at read
    have blanks := (skipBlanks_suffix input).trans inside
    split at read
    · exact progress.every_close grows every read
    · next behind shape =>
      rw [shape] at blanks
      obtain ⟨⟨⟨⟩, after⟩, ended, read⟩ := Option.bind_eq_some_iff.1 read
      exact ih every ((lineEnd_takesFront _ _ _ ended).trans blanks) read
    · next behind shape =>
      rw [shape] at blanks
      obtain ⟨⟨⟨⟨path, repeated⟩, span⟩, after⟩, opening, read⟩ := Option.bind_eq_some_iff.1 read
      obtain ⟨⟨⟨⟩, left_⟩, ended, read⟩ := Option.bind_eq_some_iff.1 read
      obtain ⟨opened, opens, onward⟩ := Option.bind_eq_some_iff.1 read
      obtain ⟨⟨found, next⟩, headed, same⟩ := Option.bind_eq_some_iff.1 opening
      cases same
      obtain ⟨areKeyed, inside⟩ := header_reads keys _ _ _ blanks headed
      exact ih (Progress.every_openTable grows every areKeyed opens)
        ((lineEnd_takesFront _ _ _ ended).trans inside) onward
    · next char behind _ _ shape =>
      rw [shape] at blanks
      split at read
      · obtain ⟨⟨⟨⟩, after⟩, ended, read⟩ := Option.bind_eq_some_iff.1 read
        exact ih every ((newline_takesFront _ _ _ ended).trans blanks) read
      · obtain ⟨⟨⟨path, key, node⟩, after⟩, pair, read⟩ := Option.bind_eq_some_iff.1 read
        obtain ⟨⟨⟨⟩, left_⟩, ended, read⟩ := Option.bind_eq_some_iff.1 read
        obtain ⟨grown, adds, read⟩ := Option.bind_eq_some_iff.1 read
        obtain ⟨⟨areKeyed, isKeyed, sound⟩, inside⟩ :=
          keyValue_reads keys (value_reads grows keys _) _ _ _ blanks pair
        exact ih (Progress.every_addKey grows every areKeyed isKeyed sound adds)
          ((lineEnd_takesFront _ _ _ ended).trans inside) read

/-- A property that tables keep as they grow by keys of a kind holds of all tables of a document whose keys
are of that kind. -/
theorem parse?_every {content : String} {document : Entries} (grows : Grows keyed good)
    (keys : simpleKey.Reads content.toList keyed) (read : parse? content = some document) :
    document.Every good := by
  unfold parse? at read
  dsimp only at read
  refine linesWithin_every grows keys _ (Progress.every_start grows) ?_ read
  split
  · next behind shape =>
    rw [shape]
    exact List.suffix_cons _ _
  · exact List.suffix_rfl

end Retag.Toml
