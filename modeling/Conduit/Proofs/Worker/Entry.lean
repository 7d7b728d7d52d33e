import Conduit.Proofs.Url.Authority
import Conduit.Proofs.Url.Host
import Conduit.Worker.Address

/-!
# Entries of a worker list

An entry is written with a scheme, or as the rest of an `http` address. It leads to the host and the
port that are written in it, with one exception: a scheme is told as one only if it is `http` or
`https` in lower case. An entry with any other scheme, these two in upper case among them, is taken
for the rest of an address, so the name of its scheme becomes the host.
-/
namespace Conduit.Worker

open Url

/-! ### What an entry says -/

/-- What counts of the end of an address: slashes at the very end are cut off, then controls and
blanks. Tabs and line ends count nowhere. -/
def pruned (s : List Char) : List Char :=
  Path.cleaned ((withoutEndSlashes s).rdropWhile isControlOrBlank)

/-- A letter, and behind it letters, digits and three signs. -/
structure IsScheme (name : List Char) : Prop where
  first : ∃ c ∈ name.head?, c.isAlpha
  rest : ∀ c ∈ name, c.isAlphanum ∨ c ∈ ['+', '-', '.']

instance (name : List Char) : Decidable (IsScheme name) :=
  decidable_of_iff (name.head?.any Char.isAlpha ∧ name.all fun c =>
    c.isAlphanum || ['+', '-', '.'].contains c)
    ⟨fun ⟨first, rest⟩ =>
      ⟨by simpa [Option.any_eq_true] using first, by simpa [List.all_eq_true] using rest⟩,
      fun ⟨first, rest⟩ =>
        ⟨by simpa [Option.any_eq_true] using first, by simpa [List.all_eq_true] using rest⟩⟩

/-- The entry is written with a scheme; the rest is what follows its colon. -/
structure Schemed (entry name rest : List Char) : Prop where
  scheme : IsScheme name
  written : ∃ front, entry = front ++ ':' :: rest ∧ Path.cleaned front = name
  slashed : "//".toList <+: Path.cleaned rest

def schemeName (secure : Bool) : List Char := if secure then "https".toList else "http".toList

/-- The endpoint that is written in an entry. Schemes are the same in upper and lower case, and an
entry without one is the rest of an `http` address. -/
inductive Denotes (entry : List Char) (endpoint : Endpoint) : Prop where
  | schemed {name rest : List Char} {secure : Bool} {a : Authority}
      (written : Schemed entry name rest) (known : name.map Char.toLower = schemeName secure)
      (text : a.text = pruned rest) (names : a.Names secure endpoint)
  | bare {a : Authority} (unschemed : ∀ name rest, ¬Schemed entry name rest)
      (text : a.text = pruned entry) (names : a.Names false endpoint)

/-- The entry is written with a scheme that is not told as one, since it is none of the two in lower
case. -/
structure Astray (entry name rest : List Char) : Prop where
  written : Schemed entry name rest
  untold : hasScheme entry = false

/-- Where an entry leads. -/
inductive Reaches (entry : List Char) (endpoint : Endpoint) : Prop where
  | denoted (straight : ∀ name rest, ¬Astray entry name rest) (denotes : Denotes entry endpoint)
  | astray {name rest : List Char} (astray : Astray entry name rest)
      (host : parseHost name = .ok endpoint.host) (secure : endpoint.secure = false)
      (port : endpoint.port = 80)

/-! ### The ends of entries -/

theorem rdropWhile_append_cons {p : Char → Bool} {mark : Char} (kept : ¬p mark)
    (front back : List Char) :
    (front ++ mark :: back).rdropWhile p = front ++ mark :: back.rdropWhile p := by
  induction back using List.reverseRecOn with
  | nil => rw [List.rdropWhile_nil, List.rdropWhile_concat_neg _ _ _ kept]
  | append_singleton back last ih =>
    rw [← List.cons_append, ← List.append_assoc, List.rdropWhile_concat, List.rdropWhile_concat, ih]
    split
    · rfl
    · rw [List.append_assoc, List.cons_append]

theorem not_isDropped {c : Char} (kept : ¬isControlOrBlank c) : ¬Path.isDropped c := by
  simp only [Path.isDropped, Bool.or_eq_true, decide_eq_true_eq]
  rintro ((rfl | rfl) | rfl) <;> exact kept (by decide)

theorem cleaned_eq_self {s : List Char} (kept : ∀ c ∈ s, ¬isControlOrBlank c) :
    Path.cleaned s = s :=
  List.filter_eq_self.mpr fun c member => by simpa using not_isDropped (kept c member)

theorem cleaned_append_cons {mark : Char} (kept : ¬isControlOrBlank mark) (front back : List Char) :
    Path.cleaned (front ++ mark :: back) = Path.cleaned front ++ mark :: Path.cleaned back := by
  simp [Path.cleaned, List.filter_append, not_isDropped kept]

theorem withoutEndSlashes_append_cons {mark : Char} (other : mark ≠ '/') (front back : List Char) :
    withoutEndSlashes (front ++ mark :: back) = front ++ mark :: withoutEndSlashes back :=
  rdropWhile_append_cons (by simpa using other) front back

/-- What stands in front of such a character stays whatever comes at the end. -/
theorem pruned_append_cons {mark : Char} (other : mark ≠ '/') (kept : ¬isControlOrBlank mark)
    (front back : List Char) :
    pruned (front ++ mark :: back) = Path.cleaned front ++ mark :: pruned back := by
  rw [pruned, withoutEndSlashes_append_cons other, rdropWhile_append_cons kept,
    cleaned_append_cons kept, pruned]

theorem head?_cleaned {s : List Char} (slash : ∀ c ∈ s.head?, c = '/') :
    ∀ c ∈ (Path.cleaned s).head?, c = '/' := by
  cases s with
  | nil => simp [Path.cleaned]
  | cons first rest =>
    obtain rfl := slash first rfl
    exact fun c first => (Option.some.inj first).symm

/-- What is left of a text that begins with a slash begins with it, if anything is left. -/
theorem head?_pruned {s : List Char} (slash : ∀ c ∈ (Path.cleaned s).head?, c = '/') :
    ∀ c ∈ (pruned s).head?, c = '/' := by
  have kept : (withoutEndSlashes s).rdropWhile isControlOrBlank <+: s :=
    (List.rdropWhile_prefix _ _).trans (List.rdropWhile_prefix _ s)
  intro c first
  obtain ⟨more, whole⟩ := kept.filter fun c => !Path.isDropped c
  refine slash c ?_
  rw [Path.cleaned, ← whole]
  exact List.mem_head?_append_of_mem_head? first

theorem tidy_append_cons {front back : List Char} {mark : Char}
    (start : ∀ c ∈ (front ++ [mark]).head?, ¬isControlOrBlank c) (kept : ¬isControlOrBlank mark) :
    tidy (front ++ mark :: back) =
      Path.cleaned front ++ mark :: Path.cleaned (back.rdropWhile isControlOrBlank) := by
  have whole : (front ++ mark :: back).dropWhile isControlOrBlank = front ++ mark :: back := by
    cases front with
    | nil => exact List.dropWhile_cons_of_neg (start mark rfl)
    | cons c front => exact List.dropWhile_cons_of_neg (start c rfl)
  rw [tidy, whole]
  change Path.cleaned ((front ++ mark :: back).rdropWhile isControlOrBlank) = _
  rw [rdropWhile_append_cons kept, cleaned_append_cons kept]

theorem parse_told (secure : Bool) (rest : List Char) :
    Url.parse (withoutEndSlashes (schemeName secure ++ ':' :: rest)) =
      parseRest secure (pruned rest) := by
  have tidied : tidy (withoutEndSlashes (schemeName secure ++ ':' :: rest)) =
      schemeName secure ++ ':' :: pruned rest := by
    rw [withoutEndSlashes_append_cons (by decide), tidy_append_cons]
    · cases secure <;> rfl
    · cases secure <;> simp [schemeName] <;> decide
    · decide
  rw [Url.parse, tidied]
  cases secure <;> rfl

theorem parse_untold (entry : List Char) :
    Url.parse ("http://".toList ++ withoutEndSlashes entry) = parseRest false (pruned entry) := by
  have tidied : tidy ("http:/".toList ++ '/' :: withoutEndSlashes entry) =
      "http:/".toList ++ '/' :: pruned entry := by
    have start : ∀ c ∈ ("http:/".toList ++ ['/']).head?, ¬isControlOrBlank c := by
      intro c first
      obtain rfl : 'h' = c := Option.some.inj first
      decide
    rw [tidy_append_cons start (by decide)]
    rfl
  have whole : "http://".toList ++ withoutEndSlashes entry =
      "http:/".toList ++ '/' :: withoutEndSlashes entry := rfl
  rw [Url.parse, whole, tidied]
  rfl

/-! ### Entries with a scheme -/

theorem hasScheme_iff {entry : List Char} :
    hasScheme entry ↔ ∃ secure rest, entry = schemeName secure ++ ':' :: '/' :: '/' :: rest := by
  rw [hasScheme, Bool.or_eq_true, List.isPrefixOf_iff_prefix, List.isPrefixOf_iff_prefix]
  constructor
  · rintro (⟨rest, rfl⟩ | ⟨rest, rfl⟩)
    · exact ⟨false, rest, rfl⟩
    · exact ⟨true, rest, rfl⟩
  · rintro ⟨_ | _, rest, rfl⟩
    · exact Or.inl ⟨rest, rfl⟩
    · exact Or.inr ⟨rest, rfl⟩

theorem IsScheme.named {name : List Char} (scheme : IsScheme name) : name ≠ [] := by
  obtain ⟨letter, first, -⟩ := scheme.first
  rintro rfl
  cases first

theorem IsScheme.free {name : List Char} (scheme : IsScheme name) :
    ∀ c ∈ name, ¬Domain.isForbidden c := by
  intro c member forbidden
  refine of_ascii (P := fun c => Domain.isForbidden c → ¬(c.isAlphanum ∨ c ∈ ['+', '-', '.'])) ?_
    (isAscii_of_isForbidden forbidden) forbidden (scheme.rest c member)
  decide

theorem eq_of_append_colon {front front' rest rest' : List Char} (first : ':' ∉ front)
    (first' : ':' ∉ front') (same : front ++ ':' :: rest = front' ++ ':' :: rest') :
    front = front' ∧ rest = rest' := by
  have before {front rest : List Char} (first : ':' ∉ front) :
      (front ++ ':' :: rest).takeWhile (· ≠ ':') = front :=
    takeWhile_bounded (fun c member => decide_eq_true fun colon => first (colon ▸ member)) (by simp)
  have fronts := congrArg (List.takeWhile (· ≠ ':')) same
  rw [before first, before first'] at fronts
  subst fronts
  exact ⟨rfl, by simpa using same⟩

theorem Schemed.unique {entry name name' rest rest' : List Char} (one : Schemed entry name rest)
    (two : Schemed entry name' rest') : name = name' ∧ rest = rest' := by
  obtain ⟨front, rfl, rfl⟩ := one.written
  obtain ⟨front', same, rfl⟩ := two.written
  have first {front : List Char} (scheme : IsScheme (Path.cleaned front)) :
      ':' ∉ front := fun colon =>
    scheme.free ':' (List.mem_filter.mpr ⟨colon, by decide⟩) (by decide)
  obtain ⟨rfl, rfl⟩ := eq_of_append_colon (first one.scheme) (first two.scheme) same
  exact ⟨rfl, rfl⟩

theorem schemed_told (secure : Bool) (rest : List Char) :
    Schemed (schemeName secure ++ ':' :: '/' :: '/' :: rest) (schemeName secure)
      ('/' :: '/' :: rest) where
  scheme := by cases secure <;> decide
  written := ⟨schemeName secure, rfl, by cases secure <;> rfl⟩
  slashed := ⟨Path.cleaned rest, rfl⟩

theorem not_astray_told (secure : Bool) (rest name rest' : List Char) :
    ¬Astray (schemeName secure ++ ':' :: '/' :: '/' :: rest) name rest' := by
  rintro ⟨-, untold⟩
  rw [hasScheme_iff.mpr ⟨secure, rest, rfl⟩] at untold
  cases untold

theorem Schemed.denotes_iff {entry name rest : List Char} (schemed : Schemed entry name rest)
    {e : Endpoint} :
    Denotes entry e ↔ ∃ secure, name.map Char.toLower = schemeName secure ∧
      ∃ url, parseRest secure (pruned rest) = .ok url ∧ url.endpoint = e := by
  simp only [← exists_names_iff]
  constructor
  · rintro (⟨written, known, text, names⟩ | ⟨unschemed, -, -⟩)
    · obtain ⟨rfl, rfl⟩ := schemed.unique written
      exact ⟨_, known, _, text, names⟩
    · exact absurd schemed (unschemed name rest)
  · rintro ⟨secure, known, a, text, names⟩
    exact .schemed schemed known text names

theorem denotes_told_iff {secure : Bool} {rest : List Char} {e : Endpoint} :
    Denotes (schemeName secure ++ ':' :: '/' :: '/' :: rest) e ↔
      ∃ url, parseRest secure (pruned ('/' :: '/' :: rest)) = .ok url ∧ url.endpoint = e := by
  have known (other : Bool) : (schemeName secure).map Char.toLower = schemeName other ↔
      secure = other := by
    cases secure <;> cases other <;> decide
  simp [(schemed_told secure rest).denotes_iff, known]

/-- The name of the scheme as the host, in front of a port that is left empty. -/
def Schemed.authority {entry name rest : List Char} (schemed : Schemed entry name rest) :
    Authority :=
  .ofName (List.forall_mem_nil _) schemed.scheme.named schemed.scheme.free
    (.given []) fun c first => by
    have slash : ∀ c ∈ (Path.cleaned rest).head?, c = '/' := by
      obtain ⟨others, slashes⟩ := schemed.slashed
      rw [← slashes]
      exact fun c first => (Option.some.inj first).symm
    rw [head?_pruned slash c first]
    decide

theorem Schemed.text_authority {entry name rest : List Char} (schemed : Schemed entry name rest) :
    schemed.authority.text = pruned entry := by
  obtain ⟨front, rfl, rfl⟩ := schemed.written
  rw [pruned_append_cons (by decide) (by decide)]
  simp [Authority.text, authority, Authority.ofName]

/-- An entry with a scheme that is not told is read as the rest of an address, whose host is the
name of the scheme. -/
theorem Schemed.astray_iff {entry name rest : List Char} (schemed : Schemed entry name rest)
    {e : Endpoint} : (∃ url, parseRest false (pruned entry) = .ok url ∧ url.endpoint = e) ↔
      parseHost name = .ok e.host ∧ e.secure = false ∧ e.port = 80 := by
  rw [← schemed.text_authority, ← Authority.names_iff]
  -- Behind the colon there are no digits.
  have standard : SpellsPort false schemed.authority.port e.port ↔ e.port = 80 :=
    spellsPort_colon_iff
  constructor
  · rintro ⟨secure, host, port⟩
    exact ⟨host, secure, standard.mp port⟩
  · rintro ⟨host, secure, port⟩
    exact ⟨secure, host, standard.mpr port⟩

/-! ### Where entries lead -/

/-- Where an entry leads is read from its base address, and nowhere else. -/
theorem reaches_iff {entry : List Char} {e : Endpoint} :
    Reaches entry e ↔ ∃ url, Url.parse (baseOf entry) = .ok url ∧ url.endpoint = e := by
  cases told : hasScheme entry with
  -- A scheme that is told is one of the two in lower case, so the entry is not astray.
  | true =>
    obtain ⟨secure, rest, rfl⟩ := hasScheme_iff.mp told
    rw [baseOf, if_pos told, parse_told, ← denotes_told_iff]
    constructor
    · rintro (⟨-, denotes⟩ | ⟨astray, -, -, -⟩)
      · exact denotes
      · exact absurd astray (not_astray_told secure rest _ _)
    · exact .denoted (not_astray_told secure rest)
  | false =>
    rw [baseOf, if_neg (by simp [told]), parse_untold]
    -- With a scheme it is astray; without one it is the rest of an address.
    by_cases schemed : ∃ name rest, Schemed entry name rest
    · obtain ⟨name, rest, written⟩ := schemed
      rw [written.astray_iff]
      constructor
      · rintro (⟨straight, -⟩ | ⟨⟨other, -⟩, host, secure, port⟩)
        · exact absurd ⟨written, told⟩ (straight name rest)
        · obtain ⟨rfl, -⟩ := written.unique other
          exact ⟨host, secure, port⟩
      · rintro ⟨host, secure, port⟩
        exact .astray ⟨written, told⟩ host secure port
    · have unschemed (name rest : List Char) : ¬Schemed entry name rest :=
        fun written => schemed ⟨name, rest, written⟩
      rw [← exists_names_iff]
      constructor
      · rintro (⟨-, denotes⟩ | ⟨⟨written, -⟩, -, -, -⟩)
        · cases denotes with
          | schemed written => exact absurd written (unschemed _ _)
          | bare _ text names => exact ⟨_, text, names⟩
        · exact absurd written (unschemed _ _)
      · rintro ⟨a, text, names⟩
        exact .denoted (fun name rest astray => unschemed name rest astray.written)
          (.bare unschemed text names)

/-- No entry leads to two endpoints. -/
theorem Reaches.unique {entry : List Char} {one two : Endpoint} (reaches : Reaches entry one)
    (reaches' : Reaches entry two) : one = two := by
  obtain ⟨url, read, rfl⟩ := reaches_iff.mp reaches
  obtain ⟨other, same, rfl⟩ := reaches_iff.mp reaches'
  rw [read] at same
  cases same
  rfl

/-! ### Plain entries -/

theorem not_isControlOrBlank_of_free {c : Char} (free : ¬Domain.isForbidden c) :
    ¬isControlOrBlank c := by
  simp only [Domain.isForbidden, Bool.or_eq_true, decide_eq_true_eq, List.contains_iff_mem,
    List.mem_cons, not_or] at free
  obtain ⟨⟨control, -⟩, blank, -⟩ := free
  have apart : c.toNat ≠ 0x20 := fun code => blank (Char.toNat_inj.mp code)
  simp only [isControlOrBlank, decide_eq_true_eq]
  omega

theorem pruned_append {text : List Char} (named : text ≠ [])
    (kept : ∀ c ∈ text, ¬isControlOrBlank c) (other : '/' ∉ text) (front path : List Char) :
    pruned (front ++ (text ++ path)) = Path.cleaned front ++ (text ++ pruned path) := by
  obtain ⟨body, last, rfl⟩ := (List.eq_nil_or_concat text).resolve_left named
  rw [List.concat_eq_append] at *
  obtain ⟨inner, outer⟩ := List.forall_mem_append.mp kept
  have final : last ≠ '/' := fun slash => other (by simp [slash])
  have whole : front ++ (body ++ [last] ++ path) = (front ++ body) ++ last :: path := by simp
  rw [whole, pruned_append_cons final (outer last (by simp)), Path.cleaned, List.filter_append]
  change Path.cleaned front ++ Path.cleaned body ++ _ = _
  simp [cleaned_eq_self inner]

section

variable {name port path : List Char} {secure : Bool} {n : Nat}

theorem exists_authority {slashes : List Char} (slashed : ∀ c ∈ slashes, c = '/')
    (plain : PlainName name) (spelled : SpellsPort secure port n)
    (slash : ∀ c ∈ path.head?, c = '/') :
    ∃ a : Authority, a.text = pruned (slashes ++ (name ++ port ++ path)) ∧
      a.Names secure ⟨secure, .domain (name.map Char.toLower), n⟩ := by
  have kept : ∀ c ∈ name ++ port, ¬isControlOrBlank c :=
    List.forall_mem_append.mpr ⟨fun c member => not_isControlOrBlank_of_free (plain.free c member),
      fun c member => (spelled.isPort.inside c member).2.2⟩
  have other : '/' ∉ name ++ port := by
    intro member
    rcases List.mem_append.mp member with inside | behind
    · exact plain.free '/' inside (by decide)
    · exact (spelled.isPort.inside '/' behind).1 (by decide)
  have ended : ∀ c ∈ (pruned path).head?, c = '/' := head?_pruned (head?_cleaned slash)
  have named : name ++ port ≠ [] := fun none => plain.named (List.append_eq_nil_iff.mp none).1
  have front : Path.cleaned slashes = slashes := cleaned_eq_self fun c member => by
    rw [slashed c member]
    decide
  refine ⟨.ofName
    (fun c member => by rw [slashed c member]; decide) plain.named plain.free spelled.isPort
    (fun c first => by rw [ended c first]; decide), ?_, rfl, parseHost_plain plain, spelled⟩
  rw [pruned_append named kept other, front]
  simp [Authority.text, Authority.ofName]

/-- No colon in a plain entry ends the name of a scheme, unless nothing stands between it and the
path. -/
theorem unschemed_of_plain (plain : PlainName name) (spelled : SpellsPort secure port n)
    (given : port ≠ [':']) (slash : ∀ c ∈ path.head?, c = '/') (scheme rest : List Char) :
    ¬Schemed (name ++ port ++ path) scheme rest := by
  rintro ⟨isScheme, ⟨front, whole, rfl⟩, slashed⟩
  have absent {mark : Char} (kept : ¬Path.isDropped mark) (forbidden : Domain.isForbidden mark) :
      mark ∉ front :=
    fun member => isScheme.free mark (List.mem_filter.mpr ⟨member, by simpa using kept⟩) forbidden
  have colonless : ':' ∉ name := fun member => plain.free ':' member (by decide)
  have uncolon : path ≠ ':' :: rest :=
    fun colon => absurd (slash ':' (by rw [colon]; rfl)) (by decide)
  cases spelled with
  | empty => exact given rfl
  | omitted =>
    rw [List.append_nil] at whole
    rcases List.append_eq_append_iff.mp whole with
      ⟨_ | ⟨c, more⟩, rfl, tail⟩ | ⟨_ | ⟨c, more⟩, rfl, tail⟩
    · exact uncolon tail
    -- The colon is in the path, behind its slash.
    · obtain rfl := slash c (by rw [tail]; rfl)
      exact absent (by decide) (by decide) (List.mem_append_right name List.mem_cons_self)
    · exact uncolon tail.symm
    · obtain ⟨rfl, -⟩ := List.cons.inj tail
      exact colonless (List.mem_append_right front List.mem_cons_self)
  | @written digits some small =>
    obtain ⟨d, more, rfl⟩ := List.exists_cons_of_ne_nil some
    rw [List.append_assoc, List.cons_append] at whole
    obtain ⟨-, rfl⟩ := eq_of_append_colon colonless (absent (by decide) (by decide)) whole
    have digit : ∀ d : Number.Digit, ¬isControlOrBlank d.char ∧ '/' ≠ d.char := by decide
    obtain ⟨others, start⟩ := slashed
    have cleaned := cleaned_append_cons (digit d).1 [] (more.map Number.Digit.char ++ path)
    rw [List.map_cons, List.cons_append, ← List.nil_append (d.char :: _), cleaned] at start
    exact (digit d).2 (List.cons.inj start).1

end

/-- A plain name of a host, perhaps a port and perhaps a path, behind one of the two schemes or
behind none. -/
inductive Plainly : List Char → Endpoint → Prop where
  /-- A colon with nothing behind it counts as a port only if there is a scheme. -/
  | bare {name port path : List Char} {n : Nat} (plain : PlainName name)
    (spelled : SpellsPort false port n) (given : port ≠ [':']) (slash : ∀ c ∈ path.head?, c = '/') :
    Plainly (name ++ port ++ path) ⟨false, .domain (name.map Char.toLower), n⟩
  | told {secure : Bool} {name port path : List Char} {n : Nat} (plain : PlainName name)
      (spelled : SpellsPort secure port n) (slash : ∀ c ∈ path.head?, c = '/') :
      Plainly (schemeName secure ++ "://".toList ++ (name ++ port ++ path))
        ⟨secure, .domain (name.map Char.toLower), n⟩

/-- An entry that is plainly written leads to the host and the port that stand in it. -/
theorem Plainly.reaches {entry : List Char} {e : Endpoint} (plainly : Plainly entry e) :
    Reaches entry e := by
  cases plainly with
  | bare plain spelled given slash =>
    have unschemed := unschemed_of_plain plain spelled given slash
    obtain ⟨a, text, names⟩ := exists_authority (List.forall_mem_nil _) plain spelled slash
    exact .denoted (fun scheme rest astray => unschemed scheme rest astray.written)
      (.bare unschemed text names)
  | @told secure _ _ _ _ plain spelled slash =>
    have slashed : ∀ c ∈ ['/', '/'], c = '/' := by simp
    obtain ⟨a, text, names⟩ := exists_authority slashed plain spelled slash
    rw [List.append_assoc]
    exact .denoted (not_astray_told secure _)
      (.schemed (schemed_told secure _) (by cases secure <;> rfl) text names)

end Conduit.Worker
