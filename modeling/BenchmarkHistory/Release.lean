import BenchmarkHistory.Python

/-! The release label of a file name, `extract_release_from_filename` of each
script, with the two patterns' `re.search`, and `os.path.basename` and
`os.path.splitext`. A match is found at the leftmost position where the pattern
matches; the quantifiers are greedy, and a shorter run of digits never lets a
match continue where the longest run does not, so each match is computed
without backtracking into `\d+`. -/

namespace BenchmarkHistory

/-- First code points of the blocks of ten Unicode decimal digits (category
`Nd`), which `\d` matches in a `str` pattern. -/
def decimalBlockStarts : List ℕ :=
  [0x30, 0x660, 0x6F0, 0x7C0, 0x966, 0x9E6, 0xA66, 0xAE6, 0xB66, 0xBE6, 0xC66, 0xCE6, 0xD66, 0xDE6,
   0xE50, 0xED0, 0xF20, 0x1040, 0x1090, 0x17E0, 0x1810, 0x1946, 0x19D0, 0x1A80, 0x1A90, 0x1B50,
   0x1BB0, 0x1C40, 0x1C50, 0xA620, 0xA8D0, 0xA900, 0xA9D0, 0xA9F0, 0xAA50, 0xABF0, 0xFF10, 0x104A0,
   0x10D30, 0x11066, 0x110F0, 0x11136, 0x111D0, 0x112F0, 0x11450, 0x114D0, 0x11650, 0x116C0,
   0x11730, 0x118E0, 0x11950, 0x11C50, 0x11D50, 0x11DA0, 0x11F50, 0x16A60, 0x16AC0, 0x16B50,
   0x1D7CE, 0x1D7D8, 0x1D7E2, 0x1D7EC, 0x1D7F6, 0x1E140, 0x1E2F0, 0x1E4F0, 0x1E950, 0x1FBF0]

/-- `\d` -/
def isDecimal (c : Char) : Bool := decimalBlockStarts.any fun start => start ≤ c.toNat && c.toNat < start + 10

/-- `\d+` at the front of the text: its longest run of digits, if any, and the rest. -/
def digitRun (text : List Char) : Option (List Char × List Char) :=
  match text.span isDecimal with
  | ([], _) => none
  | run => some run

/-- `\d+\.\d+\.\d+` at the front of the text: the matched text. -/
def threePartVersion (text : List Char) : Option (List Char) := do
  let (major, rest) ← digitRun text
  let '.' :: rest := rest | none
  let (minor, rest) ← digitRun rest
  let '.' :: rest := rest | none
  let (patch, _) ← digitRun rest
  pure (major ++ '.' :: minor ++ '.' :: patch)

/-- `\d+\.\d+(?:\.\d+)?` at the front of the text: the matched text. -/
def versionNumber (text : List Char) : Option (List Char) := do
  let (major, rest) ← digitRun text
  let '.' :: rest := rest | none
  let (minor, rest) ← digitRun rest
  match rest with
  | '.' :: rest =>
    match digitRun rest with
    | some (patch, _) => pure (major ++ '.' :: minor ++ '.' :: patch)
    | none => pure (major ++ '.' :: minor)
  | _ => pure (major ++ '.' :: minor)

/-- An optional prefix tried before the pattern that follows it: greedy `?`
over the alternatives in order, then the empty one. -/
def afterPrefix (prefixes : List (List Char)) (rest : List Char → Option (List Char))
    (text : List Char) : Option (List Char) :=
  (prefixes.filterMap fun word =>
      if word.isPrefixOf text then rest (text.drop word.length) else none).head?.orElse
    fun _ => rest text

/-- `re.search(pattern, text)` followed by `.group(1)`: the group of the match
at the leftmost position where the pattern matches. -/
def search (matchAt : List Char → Option (List Char)) : List Char → Option (List Char)
  | [] => matchAt []
  | c :: text => (matchAt (c :: text)).orElse fun _ => search matchAt text

/-- `os.path.basename`: the text after the last `/`. -/
def basename (path : String) : String := ⟨(path.toList.reverse.takeWhile (· ≠ '/')).reverse⟩

/-- `os.path.splitext(path)[0]`: the path without the extension of its last
component, the extension running from that component's last dot when some
character other than a dot comes before it. -/
def splitextRoot (path : String) : String :=
  let name := (basename path).toList
  let directory := path.toList.take (path.length - name.length)
  match name.reverse.span (· ≠ '.') with
  | (_, '.' :: stem) => if stem.any (· ≠ '.') then ⟨directory ++ stem.reverse⟩ else path
  | _ => path

namespace Compare

/-- `extract_release_from_filename` of `compare_benchmark_iterations`:
`re.search(r'v?(\d+\.\d+\.\d+)', filename)`, else the name without its extension. -/
def extractReleaseFromFilename (filename : String) : String :=
  match search (afterPrefix [['v']] threePartVersion) filename.toList with
  | some release => ⟨release⟩
  | none => splitextRoot filename

end Compare

namespace Visualize

/-- `extract_release_from_filename` of `visualize_benchmarks`:
`re.search(r'(?:v|release[-_])?(\d+\.\d+(?:\.\d+)?)', filename)`, else the
base name without its extension. -/
def extractReleaseFromFilename (filename : String) : String :=
  match search (afterPrefix [['v'], "release-".toList, "release_".toList] versionNumber) filename.toList with
  | some release => ⟨release⟩
  | none => splitextRoot (basename filename)

end Visualize

end BenchmarkHistory
