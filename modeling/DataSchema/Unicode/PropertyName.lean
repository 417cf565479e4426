/-!
Names of properties for which there are no sets of characters.
-/
namespace DataSchema.Unicode

/-- Names of known properties, in both spellings, that have neither a row among the binary
properties nor a table of values. -/
def otherPropertyNames : String :=
  "bc Bidi_Class bmg Bidi_Mirroring_Glyph bpb Bidi_Paired_Bracket bpt Bidi_Paired_Bracket_Type
  blk Block ccc Canonical_Combining_Class cf Case_Folding cwkcf Changes_When_NFKC_Casefolded
  ce Composition_Exclusion dm Decomposition_Mapping dt Decomposition_Type ea East_Asian_Width
  equideo Equivalent_Unified_Ideograph xonfc Expands_On_NFC xonfd Expands_On_NFD xonfkc
  Expands_On_NFKC xonfkd Expands_On_NFKD fcnfkc FC_NFKC_Closure compex
  Full_Composition_Exclusion hst Hangul_Syllable_Type incb Indic_Conjunct_Break inpc
  Indic_Positional_Category insc Indic_Syllabic_Category isc ISO_Comment jsn Jamo_Short_Name
  jg Joining_Group jt Joining_Type cjkaccountingnumeric kAccountingNumeric
  cjkcompatibilityvariant kCompatibilityVariant kEH_Cat kEH_Desc kEH_HG kEH_IFAO kEH_JSesh
  kEH_NoMirror kEH_NoRotate cjkiicore kIICore cjkirggsource kIRG_GSource cjkirghsource
  kIRG_HSource cjkirgjsource kIRG_JSource cjkirgkpsource kIRG_KPSource cjkirgksource
  kIRG_KSource cjkirgmsource kIRG_MSource cjkirgssource kIRG_SSource cjkirgtsource
  kIRG_TSource cjkirguksource kIRG_UKSource cjkirgusource kIRG_USource cjkirgvsource
  kIRG_VSource cjkothernumeric kOtherNumeric cjkprimarynumeric kPrimaryNumeric cjkrsunicode
  unicoderadicalstroke urs kRSUnicode lb Line_Break lc Lowercase_Mapping na Name Name_Alias
  nfcqc NFC_Quick_Check nfdqc NFD_Quick_Check nfkccf NFKC_Casefold nfkcqc NFKC_Quick_Check
  nfkcscf NFKC_Simple_Casefold nfkdqc NFKD_Quick_Check nt Numeric_Type nv Numeric_Value scf
  sfc Simple_Case_Folding slc Simple_Lowercase_Mapping stc Simple_Titlecase_Mapping suc
  Simple_Uppercase_Mapping tc Titlecase_Mapping na1 Unicode_1_Name uc Uppercase_Mapping vo
  Vertical_Orientation"

end DataSchema.Unicode
