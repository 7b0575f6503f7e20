import Workflow.Text.CharSet

/-!
# General categories

The general category of every character (version 16 of the character database), as runs of code
points of one category.

## Main definitions

* `Workflow.Text.Category` — the thirty categories.
* `Workflow.Text.category` — the category of a character.
* `Workflow.Text.ofCategories` — the characters of some categories.
-/

namespace Workflow.Text

/-- A general category. -/
inductive Category where
  | control
  | format
  | unassigned
  | privateUse
  | surrogate
  | lowercaseLetter
  | modifierLetter
  | otherLetter
  | titlecaseLetter
  | uppercaseLetter
  | spacingMark
  | enclosingMark
  | nonspacingMark
  | decimalNumber
  | letterNumber
  | otherNumber
  | connectorPunctuation
  | dashPunctuation
  | closePunctuation
  | finalPunctuation
  | initialPunctuation
  | otherPunctuation
  | openPunctuation
  | currencySymbol
  | modifierSymbol
  | mathSymbol
  | otherSymbol
  | lineSeparator
  | paragraphSeparator
  | spaceSeparator
deriving DecidableEq, Repr, Inhabited

namespace Category

/-- All categories. -/
def all : List Category :=
  [.control, .format, .unassigned, .privateUse, .surrogate, .lowercaseLetter, .modifierLetter,
   .otherLetter, .titlecaseLetter, .uppercaseLetter, .spacingMark, .enclosingMark, .nonspacingMark,
   .decimalNumber, .letterNumber, .otherNumber, .connectorPunctuation, .dashPunctuation,
   .closePunctuation, .finalPunctuation, .initialPunctuation, .otherPunctuation, .openPunctuation,
   .currencySymbol, .modifierSymbol, .mathSymbol, .otherSymbol, .lineSeparator,
   .paragraphSeparator, .spaceSeparator]

/-- The abbreviation of a category: the letter of its group and a letter of its own. -/
def abbreviation : Category → String
  | .control => "Cc"
  | .format => "Cf"
  | .unassigned => "Cn"
  | .privateUse => "Co"
  | .surrogate => "Cs"
  | .lowercaseLetter => "Ll"
  | .modifierLetter => "Lm"
  | .otherLetter => "Lo"
  | .titlecaseLetter => "Lt"
  | .uppercaseLetter => "Lu"
  | .spacingMark => "Mc"
  | .enclosingMark => "Me"
  | .nonspacingMark => "Mn"
  | .decimalNumber => "Nd"
  | .letterNumber => "Nl"
  | .otherNumber => "No"
  | .connectorPunctuation => "Pc"
  | .dashPunctuation => "Pd"
  | .closePunctuation => "Pe"
  | .finalPunctuation => "Pf"
  | .initialPunctuation => "Pi"
  | .otherPunctuation => "Po"
  | .openPunctuation => "Ps"
  | .currencySymbol => "Sc"
  | .modifierSymbol => "Sk"
  | .mathSymbol => "Sm"
  | .otherSymbol => "So"
  | .lineSeparator => "Zl"
  | .paragraphSeparator => "Zp"
  | .spaceSeparator => "Zs"

/-- The category with an abbreviation. -/
def ofAbbreviation? (s : String) : Option Category := all.find? (·.abbreviation = s)

end Category

/-- The runs of all code points in order: the length of a run in hexadecimal, left out when it is
one, and the abbreviation of its category. -/
def categoryRuns : Runs Category := Runs.ofText Category.ofAbbreviation? 1
  ["20CcZs3PoSc3PoPsPePoSmPoPd2PoaNd2Po3Sm2Po1aLuPsPoPeSkPcSk1aLlPsSmPeSm21CcZsPo4ScSoPoSkSoLoPiSm",
   "CfSoSkSoSm2NoSkLl2PoSkNoLoPf3NoPo17LuSm7Lu18LlSm8LlLuLlLuLlLuLlLuLlLuLlLuLlLuLlLuLlLuLlLuLlLu",
   "LlLuLlLuLlLuLlLuLlLuLlLuLlLuLlLuLlLuLlLuLlLuLlLuLlLuLlLuLlLuLlLuLlLu2LlLuLlLuLlLuLlLuLlLuLlLu",
   "LlLuLlLu2LlLuLlLuLlLuLlLuLlLuLlLuLlLuLlLuLlLuLlLuLlLuLlLuLlLuLlLuLlLuLlLuLlLuLlLuLlLuLlLuLlLu",
   "LlLuLlLuLl2LuLlLuLlLu3Ll2LuLlLuLl2LuLl3Lu2Ll4LuLl2LuLl3Lu3Ll2LuLl2LuLlLuLlLuLl2LuLlLu2LlLuLl",
   "2LuLl3LuLlLuLl2Lu2LlLoLu3Ll4LoLuLtLlLuLtLlLuLtLlLuLlLuLlLuLlLuLlLuLlLuLlLuLlLu2LlLuLlLuLlLuLl",
   "LuLlLuLlLuLlLuLlLuLlLu2LlLuLtLlLuLl3LuLlLuLlLuLlLuLlLuLlLuLlLuLlLuLlLuLlLuLlLuLlLuLlLuLlLuLlLu",
   "LlLuLlLuLlLuLlLuLlLuLlLuLlLuLlLuLlLuLlLuLlLuLlLuLlLuLlLuLlLu7Ll2LuLl2Lu2LlLuLl4LuLlLuLlLuLlLu",
   "LlLu45LlLo1bLl12Lm4SkcLmeSk5Lm7SkLmSkLm11Sk70MnLuLlLuLlLmSkLuLl2CnLm3LlPoLu4Cn2SkLuPo3LuCnLuCn",
   "2LuLl11LuCn9Lu23LlLu2Ll3Lu3LlLuLlLuLlLuLlLuLlLuLlLuLlLuLlLuLlLuLlLuLlLuLlLu5LlLuLlSmLuLl2Lu2Ll",
   "33Lu30LlLuLlLuLlLuLlLuLlLuLlLuLlLuLlLuLlLuLlLuLlLuLlLuLlLuLlLuLlLuLlLuLlLuLlSo5Mn2MeLuLlLuLlLu",
   "LlLuLlLuLlLuLlLuLlLuLlLuLlLuLlLuLlLuLlLuLlLuLlLuLlLuLlLuLlLuLlLuLlLuLlLuLlLuLlLuLlLuLlLuLlLuLl",
   "LuLl2LuLlLuLlLuLlLuLlLuLlLuLlLu2LlLuLlLuLlLuLlLuLlLuLlLuLlLuLlLuLlLuLlLuLlLuLlLuLlLuLlLuLlLuLl",
   "LuLlLuLlLuLlLuLlLuLlLuLlLuLlLuLlLuLlLuLlLuLlLuLlLuLlLuLlLuLlLuLlLuLlLuLlLuLlLuLlLuLlLuLlLuLlLu",
   "LlLuLlLuLlLuLlLuLlLuLlLuLlLuLlLuLlLuLlCn26Lu2CnLm6Po29LlPoPd2Cn2SoScCn2dMnPdMnPo2MnPo2MnPoMn",
   "8Cn1bLo4Cn4Lo2PobCn6Cf3Sm2PoSc2Po2SobMnPoCf3Po20LoLmaLo15MnaNd4Po2LoMn63LoPoLo7MnCfSo6Mn2Lm2Mn",
   "So4Mn2LoaNd3Lo2SoLoePoCnCfLoMn1eLo1bMn2Cn59LobMnLoeCnaNd21Lo9Mn2LmSo3PoLm2CnMn2Sc16Lo4MnLm9Mn",
   "Lm3MnLm5Mn2CnfPoCn19Lo3Mn2CnPoCnbLo5Cn18LoSk6LoCn2Cf5Cn9Mn29LoLm18MnCf20MnMc36LoMnMcMnLo3Mc8Mn",
   "4McMn2McLo7MnaLo2Mn2PoaNdPoLmfLoMn2McCn8Lo2Cn2Lo2Cn16LoCn7LoCnLo3Cn4Lo2CnMnLo3Mc4Mn2Cn2Mc2Cn",
   "2McMnLo8CnMc4Cn2LoCn3Lo2Mn2CnaNd2Lo2Sc6NoSoScLoPoMn2Cn2MnMcCn6Lo4Cn2Lo2Cn16LoCn7LoCn2LoCn2LoCn",
   "2Lo2CnMnCn3Mc2Mn4Cn2Mn2Cn3Mn3CnMn7Cn4LoCnLo7CnaNd2Mn3LoMnPoaCn2MnMcCn9LoCn3LoCn16LoCn7LoCn2Lo",
   "Cn5Lo2CnMnLo3Mc5MnCn2MnMcCn2McMn2CnLofCn2Lo2Mn2CnaNdPoSc7CnLo6MnCnMn2McCn8Lo2Cn2Lo2Cn16LoCn7Lo",
   "Cn2LoCn5Lo2CnMnLoMcMnMc4Mn2Cn2Mc2Cn2McMn7Cn2MnMc4Cn2LoCn3Lo2Mn2CnaNdSoLo6NoaCnMnLoCn6Lo3Cn3Lo",
   "Cn4Lo3Cn2LoCnLoCn2Lo3Cn2Lo3Cn3Lo3CncLo4Cn2McMn2Mc3Cn3McCn3McMn2CnLo6CnMceCnaNd3No6SoScSo5CnMn",
   "3McMn8LoCn3LoCn17LoCn10Lo2CnMnLo3Mn4McCn3MnCn4Mn7Cn2MnCn3Lo2CnLo2Cn2Lo2Mn2CnaNd7CnPo7NoSoLoMn",
   "2McPo8LoCn3LoCn17LoCnaLoCn5Lo2CnMnLoMcMn5McCnMn2McCn2Mc2Mn7Cn2Mc6Cn2LoCn2Lo2Mn2CnaNdCn2LoMccCn",
   "2Mn2Mc9LoCn3LoCn29Lo2MnLo3Mc4MnCn3McCn3McMnLoSo4Cn3LoMc7No3Lo2Mn2CnaNd9NoSo6LoCnMn2McCn12Lo3Cn",
   "18LoCn9LoCnLo2Cn7Lo3CnMn4Cn3Mc3MnCnMnCn8Mc6CnaNd2Cn2McPocCn30LoMn2Lo7Mn4CnSc6LoLm8MnPoaNd2Po",
   "25Cn2LoCnLoCn5LoCn18LoCnLoCnaLoMn2Lo9MnLo2Cn5LoCnLmCn7MnCnaNd2Cn4Lo20CnLo3SofPoSoPo3So2Mn6So",
   "aNdaNoSoMnSoMnSoMnPsPePsPe2Mc8LoCn24Lo4CneMnMc5MnPo2Mn5LobMnCn24MnCn8SoMn6SoCn2So5Po4So2Po25Cn",
   "2bLo2Mc4MnMc6MnMc2Mn2Mc2MnLoaNd6Po6Lo2Mc2Mn4Lo3MnLo3Mc2Lo7Mc3Lo4MndLoMn2Mc2Mn6McMnLoMcaNd3McMn",
   "2So26LuCnLu5CnLu2Cn2bLlPoLm3Ll149LoCn4Lo2Cn7LoCnLoCn4Lo2Cn29LoCn4Lo2Cn21LoCn4Lo2Cn7LoCnLoCn4Lo",
   "2CnfLoCn39LoCn4Lo2Cn43Lo2Cn3Mn9Po14No3Cn10LoaSo6Cn56Lu2Cn6Ll2CnPd26cLoSoPo11LoZs1aLoPsPe3Cn",
   "4bLo3Po3Nl8Lo7Cn12Lo3MnMc9Cn13Lo2MnMc2Po9Cn12Lo2MncCndLoCn3LoCn2MncCn34Lo2MnMc7Mn8McMn2McbMn",
   "3PoLm3PoScLoMn2CnaNd6CnaNo6Cn6PoPd4Po3MnCfMnaNd6Cn23LoLm35Lo7Cn5Lo2Mn22LoMnLo5Cn46LoaCn1fLoCn",
   "3Mn4Mc2Mn3Mc4Cn2McMn6Mc3Mn4CnSo3Cn2PoaNd1eLo2Cn5LobCn2cLo4Cn1aLo6CnaNdNo3Cn22So17Lo2Mn2McMn2Cn",
   "2Po35LoMcMnMc7MnCnMnMcMn2Mc8Mn6McaMn2CnMnaNd6CnaNd6Cn7PoLm6Po2CneMnMe10Mn31Cn4MnMc2fLoMnMc5Mn",
   "McMn5McMn2Mc8LoCn2PoaNd7PoaSo9Mn9So3Po2MnMc1eLoMc4Mn2Mc2MnMc3Mn2LoaNd2cLoMnMc2Mn3McMnMc3Mn2Mc",
   "8Cn4Po24Lo8Mc8Mn2Mc2Mn3Cn5PoaNd3Cn3LoaNd1eLo6Lm2Po9LlLuLl5Cn2bLu2Cn3Lu8Po8Cn3MnPodMnMc7Mn4LoMn",
   "6LoMn2LoMc2MnLo5Cn2cLl3fLmdLlLm22Ll25Lm40MnLuLlLuLlLuLlLuLlLuLlLuLlLuLlLuLlLuLlLuLlLuLlLuLlLu",
   "LlLuLlLuLlLuLlLuLlLuLlLuLlLuLlLuLlLuLlLuLlLuLlLuLlLuLlLuLlLuLlLuLlLuLlLuLlLuLlLuLlLuLlLuLlLuLl",
   "LuLlLuLlLuLlLuLlLuLlLuLlLuLlLuLlLuLlLuLlLuLlLuLlLuLlLuLlLuLlLuLlLuLlLuLlLuLlLuLlLuLlLuLlLuLlLu",
   "LlLuLlLuLlLuLlLuLlLuLlLuLlLuLlLuLlLuLlLuLlLuLlLuLlLuLlLuLlLu9LlLuLlLuLlLuLlLuLlLuLlLuLlLuLlLu",
   "LlLuLlLuLlLuLlLuLlLuLlLuLlLuLlLuLlLuLlLuLlLuLlLuLlLuLlLuLlLuLlLuLlLuLlLuLlLuLlLuLlLuLlLuLlLuLl",
   "LuLlLuLlLuLlLuLlLuLlLuLlLuLlLuLlLuLlLuLlLuLlLuLlLuLlLuLlLuLlLuLlLuLlLu9Ll8Lu6Ll2Cn6Lu2Cn8Ll8Lu",
   "8Ll8Lu6Ll2Cn6Lu2Cn8LlCnLuCnLuCnLuCnLu8Ll8LueLl2Cn8Ll8Lt8Ll8Lt8Ll8Lt5LlCn2Ll4LuLtSkLl3Sk3LlCn",
   "2Ll4LuLt3Sk4Ll2Cn2Ll4LuCn3Sk8Ll5Lu3Sk2Cn3LlCn2Ll4LuLt2SkCnbZs5Cf6Pd2PoPiPfPs2PiPfPsPi8PoZlZp",
   "5CfZs9PoPiPf4Po2Pc3PoSmPsPebPoSmPoPcaPoZs5CfCnaCfNoLm2Cn6No3SmPsPeLmaNo3SmPsPeCndLm3Cn21ScfCn",
   "dMn4MeMn3MecMnfCn2SoLu4SoLu2SoLl3Lu2Ll3LuLlSoLu2SoSm5Lu6SoLuSoLuSoLuSo4LuSoLl4LuLl4LoLl2So2Ll",
   "2Lu5SmLu4LlSoSm2SoLlSo10No23NlLuLl4NlNo2So4Cn5Sm5So2Sm4SoSm2SoSm2SoSm7SoSm1fSo2Sm2SoSmSoSm1fSo",
   "10cSm8SoPsPePsPe14So2Sm7SoPsPe51SoSm1eSo19Sm28So6Sm48So16CnbSo15Cn3cNo4eSo16Nob7SoSm9SoSm36So",
   "8Sm6fSoSmf8SoPsPePsPePsPePsPePsPePsPePsPe1eNo2cSo5SmPsPe1fSmPsPePsPePsPePsPePsPe10Sm100So83Sm",
   "PsPePsPePsPePsPePsPePsPePsPePsPePsPePsPePsPe3fSmPsPePsPe20SmPsPe102Sm30So15Sm2So6Sm27So2Cn20So",
   "Cn69So30Lu30LlLuLl3Lu2LlLuLlLuLlLuLl4LuLlLu2LlLu6Ll2Lm3LuLlLuLlLuLlLuLlLuLlLuLlLuLlLuLlLuLlLu",
   "LlLuLlLuLlLuLlLuLlLuLlLuLlLuLlLuLlLuLlLuLlLuLlLuLlLuLlLuLlLuLlLuLlLuLlLuLlLuLlLuLlLuLlLuLlLuLl",
   "LuLlLuLlLuLlLuLlLuLlLuLlLuLlLuLlLuLlLuLlLuLlLuLlLuLlLuLlLuLlLuLlLu2Ll6SoLuLlLuLl3MnLuLl5Cn4Po",
   "No2Po26LlCnLl5CnLl2Cn38Lo7CnLmPoeCnMn17Lo9Cn7LoCn7LoCn7LoCn7LoCn7LoCn7LoCn7LoCn7LoCn20Mn2PoPi",
   "PfPiPf3PoPiPfPoPiPf9PoPd2PoPdPoPiPf2PoPiPfPsPePsPePsPePsPe5PoLmaPo2Pd4PoPdPoPsdPo2So3PoPsPePs",
   "PePsPePsPePd22Cn1aSoCn59SocCnd6So1aCn10SoZs3PoSoLmLoNlPsPePsPePsPePsPePsPe2SoPsPePsPePsPePsPe",
   "PdPs2PeSo9Nl4Mn2McPd5Lm2So3NlLmLoPo2SoCn56Lo2Cn2Mn2Sk2LmLoPd5aLoPo3LmLo5Cn2bLoCn5eLoCn2So4No",
   "aSo20Lo26So9CnSo10Lo1fSoCnaNo1eSo8NoSofNo20SoaNo27SofNo140So19c0Lo40So5215LoLm477Lo3Cn37So9Cn",
   "28Lo6Lm2Po10cLoLm3Po10LoaNd2Lo14CnLuLlLuLlLuLlLuLlLuLlLuLlLuLlLuLlLuLlLuLlLuLlLuLlLuLlLuLlLuLl",
   "LuLlLuLlLuLlLuLlLuLlLuLlLuLlLuLlLoMn3MePoaMnPoLmLuLlLuLlLuLlLuLlLuLlLuLlLuLlLuLlLuLlLuLlLuLlLu",
   "LlLuLlLuLl2Lm2Mn46LoaNl2Mn6Po8Cn17Sk9Lm2SkLuLlLuLlLuLlLuLlLuLlLuLlLu3LlLuLlLuLlLuLlLuLlLuLlLu",
   "LlLuLlLuLlLuLlLuLlLuLlLuLlLuLlLuLlLuLlLuLlLuLlLuLlLuLlLuLlLuLlLuLlLuLlLuLlLuLlLuLlLuLlLuLlLuLl",
   "LuLlLuLlLm8LlLuLlLuLl2LuLlLuLlLuLlLuLlLuLlLm2SkLuLlLuLlLoLuLlLu3LlLuLlLuLlLuLlLuLlLuLlLuLlLuLl",
   "LuLlLuLlLuLl5LuLl5LuLlLuLlLuLlLuLlLuLlLuLlLuLlLuLl4LuLlLuLl2LuLl2CnLuLlCnLlCnLlLuLlLuLlLuLlLu",
   "15Cn3LmLuLlLo2LmLl7LoMn3LoMn4LoMn17Lo2Mc2MnMc4SoMn3Cn6No2SoScSo6Cn34Lo4Po8Cn2Mc32Lo10Mc2Mn8Cn",
   "2PoaNd6Cn12Mn6Lo3PoLoPo2LoMnaNd1cLo8Mn2Po17LobMn2McbCnPo1dLo3Cn3MnMc2fLoMn2Mc4Mn2Mc2Mn3McdPoCn",
   "LmaNd4Cn2Po5LoMnLm9LoaNd5LoCn29Lo6Mn2Mc2Mn2Mc2Mn9Cn3LoMn8LoMnMc2CnaNd2Cn4Po10LoLm6Lo3SoLoMcMn",
   "Mc32LoMnLo3Mn2Lo2Mn5Lo2MnLoMnLo18Cn2LoLm2PobLoMc2Mn2Mc2PoLo2LmMcMnaCn6Lo2Cn6Lo2Cn6Lo9Cn7LoCn",
   "7LoCn2bLlSk4Lm9LlLm2Sk4Cn50Ll23Lo2McMn2McMn2McPoMcMn2CnaNd6Cn2ba4LocCn17Lo4Cn31Lo4Cn800Cs",
   "1900Co16eLo2Cn6aLo26Cn7LlcCn5Ll5CnLoMnaLoSmdLoCn5LoCnLoCn2LoCn2LoCn6cLo11Sk10Cn16bLoPePs10So",
   "40Lo2Cn36Lo7CnSo20CncLoSc3So10Mn7PoPsPePo6Cn10MnPo2Pd2PcPsPePsPePsPePsPePsPePsPePsPePsPe2PoPs",
   "Pe4Po3Pc3PoCn4PoPdPsPePsPePsPe3PoSmPd3SmCnPoSc2Po4Cn5LoCn87Lo2CnCfCn3PoSc3PoPsPePoSmPoPd2PoaNd",
   "2Po3Sm2Po1aLuPsPoPeSkPcSk1aLlPsSmPeSmPsPePoPsPe2PoaLoLm2dLo2Lm1fLo3Cn6Lo2Cn6Lo2Cn6Lo2Cn3Lo3Cn",
   "2ScSmSkSo2ScCnSo4Sm2SoaCn3Cf2So2CncLoCn1aLoCn13LoCn2LoCnfLo2CneLo22Cn7bLo5Cn3Po4Cn2dNo3Cn9So",
   "35Nl4No11So2No3SoCndSo3CnSo2fCn2dSoMn82Cn1dLo3Cn31LofCnMn1bNo4Cn20Lo4No9Cn14LoNl8LoNl5Cn26Lo",
   "5Mn5Cn1eLoCnPo24Lo4Cn8LoPo5Nl2aCn28Lu28Ll4eLo2CnaNd6Cn24Lu4Cn24Ll4Cn28Lo8Cn34LobCnPobLuCnfLuCn",
   "7LuCn2LuCnbLlCnfLlCn7LlCn2Ll3Cn34LocCn137Lo9Cn16LoaCn8Lo18Cn6LmCn2aLmCn9Lm45Cn6Lo2CnLoCn2cLoCn",
   "2Lo3CnLo2Cn17LoCnPo8No17Lo2So7No1fLo8Cn9No30Cn13LoCn2Lo5Cn5No16Lo6No3CnPo1aLo5CnPo40Cn38Lo4Cn",
   "2No2Lo10No2Cn2eNoLo3MnCn2Mn5Cn4Mn4LoCn3LoCn1dLo2Cn3Mn4CnMn9No7Cn9Po7Cn1dLo2NoPo1dLo3No20Cn8Lo",
   "So1cLo2Mn4Cn5No7Po9Cn36Lo3Cn7Po16Lo2Cn8No13Lo5Cn8No12Lo7Cn4PocCn7No50Cn49Lo37Cn33LudCn33Ll7Cn",
   "6No24Lo4Mn8CnaNd6CnaNd4LoLmLo16Lu3Cn5MnPdLm16Ll8Cn2Smd0Cn1fNoCn2aLoCn2MnPd2Cn2Lo10Cn3Lo37Cn4Mn",
   "1dLoaNoLo8Cn16LobMn4No5Po16Cn12Lo4Mn4Po26Cn15Lo7No14Cn17Lo9CnMcMnMc35LofMn7Po4Cn14NoaNdMn2Lo",
   "2MnLo9Cn3MnMc2dLo3Mc4Mn2Mc2Mn2PoCf4PoMnaCnCf2Cn19Lo7CnaNd6Cn3Mn24Lo5MnMc8MnCnaNd4PoLo2McLo8Cn",
   "23LoMn2PoLo9Cn2MnMc30Lo3Mc9Mn2Mc4Lo4Po4MnPoMcMnaNdLoPoLo3PoCn14NobCn12LoCn19Lo3Mc3Mn2McMnMc2Mn",
   "6PoMn2LoMn3eCn7LoCnLoCn4LoCnfLoCnaLoPo6Cn2fLoMn3Mc8Mn5CnaNd6Cn2Mn2McCn8Lo2Cn2Lo2Cn16LoCn7LoCn",
   "2LoCn5LoCn2MnLo2McMn4Mc2Cn2Mc2Cn3Mc2CnLo6CnMc5Cn5Lo2Mc2Cn7Mn3Cn5MnbCnaLoCnLo2CnLoCn26LoCnLo3Mc",
   "6MnCnMc2CnMcCn4McCn2McMnMcMnLoMnLo2PoCn2Po8Cn2Mn1dCn35Lo3Mc8Mn2Mc3MnMcMn4Lo5PoaNd2PoCnPoMn3Lo",
   "1eCn30Lo3Mc6MnMcMn4Mc2MnMc2Mn2LoPoLo8CnaNda6Cn2fLo3Mc4Mn2Cn4Mc2MnMc2Mn17Po4Lo2Mn22Cn30Lo3Mc8Mn",
   "2McMnMc2Mn3PoLobCnaNd6CndPo13Cn2bLoMnMcMn2Mc6MnMcMnLoPo6CnaNd6Cn14Nd1cCn1bLo2CnMnMcMn2Mc4MnMc",
   "5Mn4CnaNd2No3PoSo7Lob9Cn2cLo3Mc9MnMc2MnPo64Cn20Lu20LlaNd9NocCn8Lo2CnLo2Cn8LoCn2LoCn18Lo6McCn",
   "2Mc2Cn2MnMcMnLoMcLoMcMn3Po9CnaNd46Cn8Lo2Cn27Lo3Mc4Mn2Cn2Mn4McMnLoPoLoMc1bCnLoaMn28Lo6MnMcLo4Mn",
   "8PoMn8CnLo6Mn2Mc3Mn2eLodMnMc2Mn3PoLo5PodCn49Lo7CnaPob6Cn21LoPoeCnaNd6Cn9LoCn25LoMc7MnCn6MnMcMn",
   "Lo5PoaCnaNd13No3Cn2Po1eLo2Cn16MnCnMc7MnMc2MnMc2Mn49Cn7LoCn2LoCn26Lo6Mn3CnMnCn2MnCn7MnLoMn8Cn",
   "aNd6Cn6LoCn2LoCn20Lo5McCn2MnCn2McMnMcMnLo7CnaNd136Cn13Lo2Mn2Mc2Po7Cn2MnLoMcdLoCn22Lo2Mc5Mn3Cn",
   "2McMnMcMndPoaNdMn55CnLofCn15No8So4Sc11SodCnPo39aLo66Cn6fNlCn5PobCnc4Loa4cCn61Lo2PodCn430Lo10Cf",
   "Mn6LofMnaCnf9bLo5Cn247Lo1ab9Cn1eLocMn3Mc3MnaNd6c6Cn239Lo7Cn1fLoCnaNd4Cn2Po4fLoCnaNd6Cn1eLo2Cn",
   "5MnPoaCn30Lo7Mn5Po4So4LmPoSoaCnaNdCn7NoCn15Lo5Cn13Lo1b0Cn3Lm28Lo2Lm3PoaNdc6Cn20Lu20Ll17No4Po",
   "65Cn4bLo4CnMnLo37Mc7Cn4MndLm40Cn2LmPoLmMnbCn2MceCn17f8Lo8Cn4d6Lo29CnaLo22e7Cn4LmCn7LmCn2LmCn",
   "123LofCnLo1dCn3Lo2CnLoeCn4Lo8Cn18cLo904Cn6bLo5CndLo3Cn9Lo7CnaLo2CnSo2MnPo4Cff5cCnf0SoaNd6Cn",
   "1b4So4cCn2eMn2Cn17Mn9Cn74So3cCnf6SoaCn27So2Cn3cSo2Mc3Mn3So6Mc8Cf8Mn2So7Mn1eSo4Mn3dSo15Cn42So",
   "3MnSo7aCn14NocCn14NocCn57So9Cn19No87Cn1aLu1aLl1aLu7LlCn12Ll1aLu1aLlLuCn2Lu2CnLu2Cn2Lu2Cn4LuCn",
   "8Lu4LlCnLlCn7LlCnbLl1aLu1aLl2LuCn4Lu2Cn8LuCn7LuCn1aLl2LuCn4LuCn5LuCnLu3Cn7LuCn1aLl1aLu1aLl1aLu",
   "1aLl1aLu1aLl1aLu1aLl1aLu1aLl1aLu1cLl2Cn19LuSm19LlSm6Ll19LuSm19LlSm6Ll19LuSm19LlSm6Ll19LuSm19Ll",
   "Sm6Ll19LuSm19LlSm6LlLuLl2Cn32Nd200So37Mn4So32Mn8SoMneSoMn2So5PofCn5MnCnfMn450CnaLlLo14Ll6Cn6Ll",
   "d5Cn7MnCn11Mn2Cn7MnCn2MnCn5Mn5Cn3eLm21CnMn70Cn2dLo3Cn7Mn7Lm2CnaNd4CnLoSo140Cn1eLoMn11Cn2cLo4Mn",
   "aNd5CnSc1d0Cn1bLoLm4MnaNdd6Cn1eLo2MnLoaNd4CnPo1e0Cn7LoCn4LoCn2LoCnfLoCnc5Lo2Cn9No7Mn29Cn22Lu",
   "22Ll7MnLm4CnaNd4Cn2Po311Cn3bNoSo3NoSc4No4cCn2dNoSofNoc2Cn4LoCn1bLoCn2LoCnLo2CnLoCnaLoCn4LoCnLo",
   "CnLo6CnLo4CnLoCnLoCnLoCn3LoCn2LoCnLo2CnLoCnLoCnLoCnLoCnLoCn2LoCnLo2Cn4LoCn7LoCn4LoCn4LoCnLoCn",
   "aLoCn11Lo5Cn3LoCn5LoCn11Lo34Cn2Sm10eCn2cSo4Cn64SocCnfSo2CnfSoCnfSoCn25SoaCndNoa1So38Cn1dSodCn",
   "2cSo4Cn9So7Cn2SoeCn6So9aCnfbSo5Sk2d8So4Cn11So3CndSo3Cn77So4Cn5fSo6CncSo4CnSofCncSo4Cn38So8Cn",
   "aSo6Cn28So8Cn1eSo2CncSo4Cn2So3eCn154SocCneSo2CndSo3CnaSo5Cn38So7CnfSo2CnbSo6Cn9So7Cn93SoCn5cSo",
   "aNd406Cna6e0Lo20Cn103aLo6CndeLo2Cn1682LoeCn1d31LofCn26eLo9a2Cn21eLo5e2Cn134bLo5Cn1060Loadc51Cn",
   "Cf1eCn60Cf80Cnf0Mnfe10CnfffeCo2CnfffeCo2Cn"]

/-- The general category of a character. -/
def category (c : Char) : Category := (categoryRuns.value? c.toNat).getD .unassigned

/-- The characters whose category is among some. -/
def ofCategories (categories : List Category) : CharSet := categoryRuns.those categories.contains

end Workflow.Text
