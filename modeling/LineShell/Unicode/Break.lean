import LineShell.Unicode.Partition

/-!
# Boundary properties

The three properties from which the boundaries of grapheme clusters, words and sentences are found.
-/

namespace LineShell.Partition

/-- The grapheme cluster properties of the code points, in runs. -/
def graphemeRuns : List String :=
  ["Cn10LfCn2CrCn18Xx95Cn33Xx13CnXx594Ex112Xx275Ex7Xx263Ex45XxExXxEx2XxEx2XxExXx56Pp6Xx10Ex11Xx",
    "CnXx46Ex21Xx16ExXx101Ex7PpXxEx6Xx2Ex2XxEx4Xx33PpXxExXx30Ex27Xx91Ex11Xx58Ex9Xx9ExXx24Ex4XxEx9",
    "XxEx3XxEx5Xx43Ex3Xx52Pp2Xx5Ex9Xx42Ex24PpEx32SmXx54ExSmExXxSm3Ex8Sm4ExSm2XxEx7Xx10Ex2Xx29Ex",
    "Sm2Xx56ExXxExSm2Ex4Xx2Sm2Xx2Sm2ExXx9ExXx10Ex2Xx26ExXx2Ex2SmXx56ExXxSm3Ex2Xx4Ex2Xx2Ex3Xx3Ex",
    "Xx30Ex2Xx3ExXx11Ex2SmXx56ExXxSm3Ex5XxEx2SmXxSm2ExXx20Ex2Xx22Ex6XxExSm2Xx56ExXxEx2SmEx4Xx2Sm2",
    "Xx2Sm2ExXx7Ex3Xx10Ex2Xx30ExXx59ExSmExSm2Xx3Sm3XxSm3ExXx9ExXx40ExSm3ExXx55ExXxEx3Sm4XxEx3Xx",
    "Ex4Xx7Ex2Xx11Ex2Xx29ExSm2Xx56ExXxSmEx2SmExSm2XxEx3XxEx4Xx7Ex2Xx11Ex2Xx15SmXx12Ex2Sm2Xx55Ex2",
    "XxExSm2Ex4XxSm3XxSm3ExPpXx8ExXx10Ex2Xx29ExSm2Xx70ExXx4ExSm2Ex3XxExXxSm7ExXx18Sm2Xx61ExXxSm",
    "Ex7Xx12Ex8Xx98ExXxSmEx9Xx11Ex7Xx73Ex2Xx27ExXxExXxExXx4Sm2Xx49Ex14SmEx5XxEx2Xx5Ex11XxEx36Xx9",
    "ExXx102Ex4SmEx6XxEx2Sm2Ex2Xx23Sm2Ex2Xx4Ex3Xx16Ex4Xx13ExXxSmEx2Xx6ExXx15ExXx98L96V72T88Xx349",
    "Ex3Xx946Ex4Xx28Ex3Xx29Ex2Xx30Ex2Xx64Ex2SmEx7Sm8ExSm2Ex11Xx9ExXx45Ex3CnExXx117Ex2Xx34ExXx118",
    "Ex3Sm4Ex2Sm3Xx4Sm2ExSm6Ex3Xx219Ex2Sm2ExXx57SmExSmEx7XxExXxExXx2Ex8Sm6Ex10Xx2ExXx48Ex31Xx49",
    "Ex4SmXx47Ex10Sm4Ex3Xx38Ex9Xx12Ex2SmXx30SmEx4Sm2Ex6Xx56ExSmEx2Sm3ExSmEx5Xx48Sm8Ex8Sm2Ex2Xx152",
    "Ex3XxEx13SmEx7Xx4ExXx6ExXx2SmEx2Xx198Ex64Xx523CnExZwjCn2Xx24Cn7Xx49Cn16Xx96Ex33Xx3070Ex3",
    "Xx141ExXx96Ex32Xx554Ex6Xx105Ex2Xx30164Ex4XxEx10Xx32Ex2Xx80Ex2Xx272ExXx3ExXx4ExXx23Sm2Ex2Sm",
    "Xx4ExXx83Sm2Xx50Sm16Ex2Xx26Ex18Xx13ExXx38Ex8Xx25Ex11SmExXx12L29Xx3Ex3SmXx47ExSm2Ex4Sm2Ex2Sm2",
    "ExXx36ExXx67Ex6Sm2Ex2Sm2Ex2Xx12ExXx8ExSmXx46ExXx51ExXxEx3Xx2Ex2Xx5Ex2XxExXx41SmEx2Sm2Xx5SmEx",
    "Xx236Sm2ExSm2ExSm2XxSmExXx18LvLvt27LvLvt27LvLvt27LvLvt27LvLvt27LvLvt27LvLvt27LvLvt27LvLvt27",
    "LvLvt27LvLvt27LvLvt27LvLvt27LvLvt27LvLvt27LvLvt27LvLvt27LvLvt27LvLvt27LvLvt27LvLvt27LvLvt27",
    "LvLvt27LvLvt27LvLvt27LvLvt27LvLvt27LvLvt27LvLvt27LvLvt27LvLvt27LvLvt27LvLvt27LvLvt27LvLvt27",
    "LvLvt27LvLvt27LvLvt27LvLvt27LvLvt27LvLvt27LvLvt27LvLvt27LvLvt27LvLvt27LvLvt27LvLvt27LvLvt27",
    "LvLvt27LvLvt27LvLvt27LvLvt27LvLvt27LvLvt27LvLvt27LvLvt27LvLvt27LvLvt27LvLvt27LvLvt27LvLvt27",
    "LvLvt27LvLvt27LvLvt27LvLvt27LvLvt27LvLvt27LvLvt27LvLvt27LvLvt27LvLvt27LvLvt27LvLvt27LvLvt27",
    "LvLvt27LvLvt27LvLvt27LvLvt27LvLvt27LvLvt27LvLvt27LvLvt27LvLvt27LvLvt27LvLvt27LvLvt27LvLvt27",
    "LvLvt27LvLvt27LvLvt27LvLvt27LvLvt27LvLvt27LvLvt27LvLvt27LvLvt27LvLvt27LvLvt27LvLvt27LvLvt27",
    "LvLvt27LvLvt27LvLvt27LvLvt27LvLvt27LvLvt27LvLvt27LvLvt27LvLvt27LvLvt27LvLvt27LvLvt27LvLvt27",
    "LvLvt27LvLvt27LvLvt27LvLvt27LvLvt27LvLvt27LvLvt27LvLvt27LvLvt27LvLvt27LvLvt27LvLvt27LvLvt27",
    "LvLvt27LvLvt27LvLvt27LvLvt27LvLvt27LvLvt27LvLvt27LvLvt27LvLvt27LvLvt27LvLvt27LvLvt27LvLvt27",
    "LvLvt27LvLvt27LvLvt27LvLvt27LvLvt27LvLvt27LvLvt27LvLvt27LvLvt27LvLvt27LvLvt27LvLvt27LvLvt27",
    "LvLvt27LvLvt27LvLvt27LvLvt27LvLvt27LvLvt27LvLvt27LvLvt27LvLvt27LvLvt27LvLvt27LvLvt27LvLvt27",
    "LvLvt27LvLvt27LvLvt27LvLvt27LvLvt27LvLvt27LvLvt27LvLvt27LvLvt27LvLvt27LvLvt27LvLvt27LvLvt27",
    "LvLvt27LvLvt27LvLvt27LvLvt27LvLvt27LvLvt27LvLvt27LvLvt27LvLvt27LvLvt27LvLvt27LvLvt27LvLvt27",
    "LvLvt27LvLvt27LvLvt27LvLvt27LvLvt27LvLvt27LvLvt27LvLvt27LvLvt27LvLvt27LvLvt27LvLvt27LvLvt27",
    "LvLvt27LvLvt27LvLvt27LvLvt27LvLvt27LvLvt27LvLvt27LvLvt27LvLvt27LvLvt27LvLvt27LvLvt27LvLvt27",
    "LvLvt27LvLvt27LvLvt27LvLvt27LvLvt27LvLvt27LvLvt27LvLvt27LvLvt27LvLvt27LvLvt27LvLvt27LvLvt27",
    "LvLvt27LvLvt27LvLvt27LvLvt27LvLvt27LvLvt27LvLvt27LvLvt27LvLvt27LvLvt27LvLvt27LvLvt27LvLvt27",
    "LvLvt27LvLvt27LvLvt27LvLvt27LvLvt27LvLvt27LvLvt27LvLvt27LvLvt27LvLvt27LvLvt27LvLvt27LvLvt27",
    "LvLvt27LvLvt27LvLvt27LvLvt27LvLvt27LvLvt27LvLvt27LvLvt27LvLvt27LvLvt27LvLvt27LvLvt27LvLvt27",
    "LvLvt27LvLvt27LvLvt27LvLvt27LvLvt27LvLvt27LvLvt27LvLvt27LvLvt27LvLvt27LvLvt27LvLvt27LvLvt27",
    "LvLvt27LvLvt27LvLvt27LvLvt27LvLvt27LvLvt27LvLvt27LvLvt27LvLvt27LvLvt27LvLvt27LvLvt27LvLvt27",
    "LvLvt27LvLvt27LvLvt27LvLvt27LvLvt27LvLvt27LvLvt27LvLvt27LvLvt27LvLvt27LvLvt27LvLvt27LvLvt27",
    "LvLvt27LvLvt27LvLvt27LvLvt27LvLvt27LvLvt27LvLvt27LvLvt27LvLvt27LvLvt27LvLvt27LvLvt27LvLvt27",
    "LvLvt27LvLvt27LvLvt27LvLvt27LvLvt27LvLvt27LvLvt27LvLvt27LvLvt27LvLvt27LvLvt27LvLvt27LvLvt27",
    "LvLvt27LvLvt27LvLvt27LvLvt27LvLvt27LvLvt27LvLvt27LvLvt27LvLvt27LvLvt27LvLvt27LvLvt27LvLvt27",
    "LvLvt27LvLvt27LvLvt27LvLvt27LvLvt27LvLvt27LvLvt27LvLvt27LvLvt27LvLvt27LvLvt27LvLvt27LvLvt27",
    "LvLvt27LvLvt27LvLvt27LvLvt27LvLvt27LvLvt27LvLvt27LvLvt27LvLvt27LvLvt27LvLvt27LvLvt27LvLvt27",
    "LvLvt27LvLvt27LvLvt27LvLvt27LvLvt27LvLvt27LvLvt27LvLvt27LvLvt27LvLvt27LvLvt27LvLvt27LvLvt27",
    "LvLvt27LvLvt27LvLvt27LvLvt27LvLvt27LvLvt27LvLvt27LvLvt27LvLvt27LvLvt27LvLvt27LvLvt27LvLvt27",
    "Xx12V23Xx4T49Xx8994ExXx737Ex16Xx16Ex16Xx207CnXx158Ex2Xx80Cn12Xx513ExXx226ExXx149Ex5Xx1670Ex3",
    "XxEx2Xx5Ex4Xx40Ex3Xx4ExXx165Ex2Xx573Ex4Xx65Ex5Xx317Ex2Xx79Ex4Xx70Ex11Xx49Ex4Xx122SmExSmXx53",
    "Ex15Xx41ExXx2Ex2Xx10Ex3SmXx45Sm3Ex4Sm2Ex2Xx2PpXx4ExXx10PpXx50Ex3Xx36Ex5SmEx8Xx16Sm2Xx44Ex",
    "Xx12Ex2SmXx48Sm3Ex9SmExXxPp2Xx5Ex4XxSmExXx92Sm3Ex3Sm2Ex4Xx6ExXx2ExXx157ExSm3Ex8Xx21Ex2Sm2",
    "Xx55Ex2XxExSmExSm4Xx2Sm2Xx2Sm2ExXx9ExXx10Sm2Xx2Ex7Xx3Ex5Xx67ExSm2Ex6XxExXx2ExXxEx3SmXxSm2Ex3",
    "PpExXx14Ex2Xx82Sm3Ex8Sm2Ex3SmExXx23ExXx81ExSm2Ex6SmExSm2ExSmEx2SmEx2Xx235ExSm2Ex4Xx2Sm4Ex2Sm",
    "Ex2Xx27Ex2Xx82Sm3Ex8Sm2ExSmEx2Xx106ExSmExSm2Ex8Xx101ExSmExXx2Ex4SmEx5Xx256Sm3Ex9SmEx2Xx245Ex",
    "Sm5XxSm2Xx2Ex4PpSmPpSmExXx141Sm3Ex4Xx2Ex2Sm4ExXx3SmXx28Ex10Xx40Ex6SmPpEx4Xx8ExXx9Ex6Sm2Ex3",
    "Xx40Pp6Ex13SmEx2Xx405SmEx7XxEx6SmExXx82Ex22XxSmEx7SmEx2SmEx2Xx122Ex6Xx3ExXxEx2XxEx7PpExXx66",
    "Sm5XxEx2XxSm2ExSmExXx347Ex2Sm2Xx9Ex2PpSmXx48Sm2Ex5Xx3Sm2Ex3Xx23ExXx5333Cn16ExXx6Ex15Xx11464",
    "Ex12Sm3Ex3Xx2496Ex5Xx59Ex7Xx556VXx3V4Xx484ExXxSm55Xx7Ex4Xx81ExXx11Ex2Xx19627Ex2XxCn4Xx4700",
    "Ex46Xx2Ex23Xx542Ex5Xx3Ex6Cn8Ex8Xx2Ex7Xx30Ex4Xx148Ex3Xx1979Ex55Xx4Ex50Xx8ExXx14ExXx22Ex5Xx",
    "Ex15Xx1360Ex7XxEx17Xx2Ex7XxEx2XxEx5Xx100ExXx160Ex7Xx375ExXx61Ex4Xx508Ex4Xx254Ex2Xx736Ex7",
    "Xx109Ex7Xx2203Ri26Xx507Ex5Xx789504Cn32Ex96Cn128Ex240Cn3600Xx192512"]

/-- The word properties of the code points, in runs. -/
def wordRuns : List String :=
  ["Xx10LfNl2CrXx18WsegspaceXxDqXx4SqXx4MnXxMbXxNu10MlMnXx5Le26Xx4ExXxLe26Xx10NlXx36LeXx2FoXx7Le",
    "XxMlXx2LeXx5Le23XxLe31XxLe480Xx6Le34Extend112Le5XxLe2Xx2Le4MnLeXx6LeMlLe3XxLeXxLe20XxLe83Xx",
    "Le139XxExtend7Le166XxLe38Xx2Le4XxLeMlLe41MnLeXx6Extend45XxExtendXxExtend2XxExtend2XxExtend",
    "Xx8Hl27Xx4Hl4LeMlXx11Nu6Xx6Mn2Xx2Extend11XxFoXx3Le43Extend21Nu10XxNuMnXxLe2ExtendLe99XxLe",
    "Extend7NuXxExtend6Le2Extend2XxExtend4Le2Nu10Le3Xx2LeXx15Le2ExtendLe30Extend27Xx2Le89Extend11",
    "LeXx14Nu10Le33Extend9Le2Xx2MnXxLeXx2ExtendXx2Le22Extend4LeExtend9LeExtend3LeExtend5Xx18Le25",
    "Extend3Xx4Le11Xx5Le24XxLe6XxNu2Xx5Extend9Le42Extend24NuExtend33Le54Extend3LeExtend18Le",
    "Extend7Le10Extend2Xx2Nu10XxLe16Extend3XxLe8Xx2Le2Xx2Le22XxLe7XxLeXx3Le4Xx2ExtendLeExtend7Xx2",
    "Extend2Xx2Extend3LeXx8ExtendXx4Le2XxLe3Extend2Xx2Nu10Le2Xx10LeXxExtendXx2Extend3XxLe6Xx4Le2",
    "Xx2Le22XxLe7XxLe2XxLe2XxLe2Xx2ExtendXxExtend5Xx4Extend2Xx2Extend3Xx3ExtendXx7Le4XxLeXx7Nu10",
    "Extend2Le3ExtendXx11Extend3XxLe9XxLe3XxLe22XxLe7XxLe2XxLe5Xx2ExtendLeExtend8XxExtend3Xx",
    "Extend3Xx2LeXx15Le2Extend2Xx2Nu10Xx9LeExtend6XxExtend3XxLe8Xx2Le2Xx2Le22XxLe7XxLe2XxLe5Xx2",
    "ExtendLeExtend7Xx2Extend2Xx2Extend3Xx7Extend3Xx4Le2XxLe3Extend2Xx2Nu10XxLeXx16ExtendLeXxLe6",
    "Xx3Le3XxLe4Xx3Le2XxLeXxLe2Xx3Le2Xx3Le3Xx3Le12Xx4Extend5Xx3Extend3XxExtend4Xx2LeXx6ExtendXx14",
    "Nu10Xx16Extend5Le8XxLe3XxLe23XxLe16Xx2ExtendLeExtend7XxExtend3XxExtend4Xx7Extend2XxLe3Xx2Le",
    "Xx2Le2Extend2Xx2Nu10Xx16LeExtend3XxLe8XxLe3XxLe23XxLe10XxLe5Xx2ExtendLeExtend7XxExtend3Xx",
    "Extend4Xx7Extend2Xx6Le2XxLe2Extend2Xx2Nu10XxLe2ExtendXx12Extend4Le9XxLe3XxLe41Extend2Le",
    "Extend7XxExtend3XxExtend4LeXx5Le3ExtendXx7Le3Extend2Xx2Nu10Xx10Le6XxExtend3XxLe18Xx3Le24Xx",
    "Le9XxLeXx2Le7Xx3ExtendXx4Extend6XxExtendXxExtend8Xx6Nu10Xx2Extend2Xx61ExtendXx2Extend7Xx12",
    "Extend8XxNu10Xx87ExtendXx2Extend9Xx11Extend7XxNu10Xx38LeXx23Extend2Xx6Nu10Xx11ExtendXxExtend",
    "XxExtendXx4Extend2Le8XxLe36Xx4Extend20XxExtend2Le5Extend11XxExtend36Xx9ExtendXx100Extend20Xx",
    "Nu10Xx12Extend4Xx4Extend3XxExtend3Xx2Extend7Xx3Extend4Xx13Extend12XxExtendNu10Extend4Xx2Le38",
    "XxLeXx5LeXx2Le43XxLe333XxLe4Xx2Le7XxLeXxLe4Xx2Le41XxLe4Xx2Le33XxLe4Xx2Le7XxLeXxLe4Xx2Le15Xx",
    "Le57XxLe4Xx2Le67Xx2Extend3Xx32Le16Xx16Le86Xx2Le6Xx3Le620Xx2Le17WsegspaceLe26Xx5Le75Xx3Le11",
    "Xx7Le18Extend4Xx9Le19Extend3Xx11Le18Extend2Xx12Le13XxLe3XxExtend2Xx64Extend32Xx9ExtendXx2",
    "Nu10Xx33Extend3FoExtendNu10Xx6Le89Xx7Le5Extend2Le34ExtendLeXx5Le70Xx10Le31XxExtend12Xx4",
    "Extend12Xx10Nu10Xx128Nu10Xx38Le23Extend5Xx57Extend10XxExtend29Xx2ExtendNu10Xx6Nu10Xx22",
    "Extend31Xx49Extend5Le47Extend17Le8Xx3Nu10Xx17Extend9Xx12Extend3Le30Extend13Le2Nu10Le44",
    "Extend14Xx12Le36Extend20Xx8Nu10Xx3Le3Nu10Le36Xx2Le11Xx5Le43Xx2Le3Xx16Extend3XxExtend21Le4",
    "ExtendLe6ExtendLe2Extend3LeXx5Le192Extend64Le278Xx2Le6Xx2Le38Xx2Le6Xx2Le8XxLeXxLeXxLeXxLe31",
    "Xx2Le53XxLe7XxLeXx3Le3XxLe7Xx3Le4Xx2Le6Xx4Le13Xx5Le3XxLe7Xx3Wsegspace7XxWsegspace3XxExtend",
    "ZwjFo2Xx8Mb2Xx10MbXx2MlNl2Fo5ExXx15Ex2Xx3MnXx15ExXx10WsegspaceFo5XxFo10XxLeXx13LeXx16Le13",
    "Xx51Extend33Xx17LeXx4LeXx2Le10XxLeXx3Le5Xx6LeXxLeXxLeXxLe4XxLe11Xx2Le4Xx5Le5Xx4LeXx17Le41",
    "Xx813Le52Xx1814Le229Xx6Le4Extend3Le2Xx12Le38XxLeXx5LeXx2Le56Xx7LeXx15ExtendLe23Xx9Le7XxLe7Xx",
    "Le7XxLe7XxLe7XxLe7XxLe7XxLe7XxExtend32Xx47LeXx464WsegspaceXx4LeXx36Extend6XxKa5Xx5Le2Xx92",
    "Extend2Ka2Xx3Ka91XxKa4Xx5Le43XxLe94Xx17Le32Xx48Ka16Xx208Ka47XxKa88Xx27816Le1165Xx67Le46Xx2",
    "Le269Xx3Le16Nu10Le2Xx20Le47Extend4XxExtend10XxLe31Extend2Le80Extend2Xx22Le198Xx2Le2XxLeXxLe8",
    "Xx21Le16ExtendLe3ExtendLe4ExtendLe23Extend5Xx4ExtendXx19Le52Xx12Extend2Le50Extend18Xx10Nu10",
    "Xx6Extend18Le6Xx3LeXxLe2ExtendNu10Le28Extend8Xx2Le23Extend13Xx12Le29Xx3Extend4Le47Extend14",
    "Xx14LeNu10Xx11ExtendXx10Nu10Xx6Le41Extend14Xx9Le3ExtendLe8Extend2Xx2Nu10Xx33Extend3Xx50",
    "ExtendXxExtend3Xx2Extend2Xx5Extend2XxExtendXx30Le11Extend5Xx2Le3Extend2Xx10Le6Xx2Le6Xx2Le6",
    "Xx9Le7XxLe7XxLe58Xx6Le115Extend8XxExtend2Xx2Nu10Xx6Le11172Xx12Le23Xx4Le49Xx8964Le7Xx12Le5Xx5",
    "HlExtendHl10XxHl13XxHl5XxHlXxHl2XxHl2XxHl10Le98Xx33Le363Xx18Le64Xx2Le54Xx40Le12Xx4Extend16",
    "Xx3MlXx12Extend16Xx3Ex2Xx24Ex3MnXxMbXxMnMlXx26Le5XxLe135Xx2FoXx7MbXx4MnXxMbXxNu10MlMnXx5Le26",
    "Xx4ExXxLe26Xx11Ka56Extend2Le31Xx3Le6Xx2Le6Xx2Le6Xx2Le3Xx28Fo3Xx4Le12XxLe26XxLe19XxLe2XxLe15",
    "Xx2Le14Xx34Le123Xx69Le53Xx136ExtendXx130Le29Xx3Le49Xx15ExtendXx31Le32Xx13Le30Xx5Le38Extend5",
    "Xx5Le30Xx2Le36Xx4Le8XxLe5Xx42Le158Xx2Nu10Xx6Le36Xx4Le36Xx4Le40Xx8Le52Xx12Le11XxLe15XxLe7Xx",
    "Le2XxLe11XxLe15XxLe7XxLe2Xx3Le52Xx12Le311Xx9Le22Xx10Le8Xx24Le6XxLe42XxLe9Xx69Le6Xx2LeXxLe44",
    "XxLe2Xx3LeXx2Le23Xx10Le23Xx9Le31Xx65Le19XxLe2Xx10Le22Xx10Le26Xx70Le56Xx6Le2Xx64LeExtend3Xx",
    "Extend2Xx5Extend4Le4XxLe3XxLe29Xx2Extend3Xx4ExtendXx32Le29Xx3Le29Xx35Le8XxLe28Extend2Xx25",
    "Le54Xx10Le22Xx10Le19Xx13Le18Xx110Le73Xx55Le51Xx13Le51Xx13Le36Extend4Xx8Nu10Xx6Nu10Le28Xx3",
    "Extend5XxLe23Xx250Le42XxExtend2Xx3Le2Xx16Le3Xx55Extend4Le29Xx10LeXx8Le22Extend11Xx31Le18",
    "Extend4Xx42Le21Xx27Le23Xx9Extend3Le53Extend15Xx31Nu10ExtendLe2Extend2LeXx9Extend4Le45",
    "Extend11Xx2NuXx4ExtendXx10NuXx2Le25Xx7Nu10Xx6Extend3Le36Extend14XxNu10Xx4LeExtend2LeXx8Le35",
    "ExtendXx2LeXx9Extend3Le48Extend14Le4Xx4Extend4XxExtend2Nu10LeXxLeXx35Le18XxLe25Extend12Xx6",
    "ExtendLe2ExtendXx62Le7XxLeXxLe4XxLe15XxLe10Xx7Le47Extend12Xx5Nu10Xx6Extend4XxLe8Xx2Le2Xx2",
    "Le22XxLe7XxLe2XxLe5XxExtend2LeExtend7Xx2Extend2Xx2Extend3Xx2LeXx6ExtendXx5Le5Extend2Xx2",
    "Extend7Xx3Extend5Xx11Le10XxLeXx2LeXxLe38XxLeExtend9XxExtendXx2ExtendXxExtend4XxExtend5Le",
    "ExtendLeXx13Extend2Xx29Le53Extend18Le4Xx5Nu10Xx4ExtendLe3Xx30Le48Extend20Le2XxLeXx8Nu10Xx166",
    "Le47Extend7Xx2Extend9Xx23Le4Extend2Xx34Le48Extend17Xx3LeXx11Nu10Xx38Le43Extend13LeXx7Nu10Xx6",
    "Nu20Xx57Extend15Xx4Nu10Xx198Le44Extend15Xx101Le64Nu10Xx21Le8Xx2LeXx2Le8XxLe2XxLe24Extend6Xx",
    "Extend2Xx2Extend4LeExtendLeExtend2Xx12Nu10Xx70Le8Xx2Le39Extend7Xx2Extend7LeXxLeExtendXx27Le",
    "Extend10Le40Extend7LeExtend4Xx8ExtendXx8LeExtend11Le46Extend16Xx3LeXx18Le73Xx199Le33Xx15Nu10",
    "Xx6Le9XxLe37Extend8XxExtend8LeXx15Nu10Xx24Le30Xx2Extend22XxExtend14Xx73Le7XxLe2XxLe38Extend6",
    "Xx3ExtendXxExtend2XxExtend7LeExtendXx8Nu10Xx6Le6XxLe2XxLe32Extend5XxExtend2XxExtend5LeXx7",
    "Nu10Xx310Le19Extend4Xx9Extend2LeExtendLe13XxLe34Extend7Xx3Extend5Xx13Nu10ExtendXx85LeXx79",
    "Le922Xx102Le111Xx17Le196Xx2636Le97Xx15Le1072Fo16ExtendLe6Extend15Xx10Le3995Xx5Le583Xx6841",
    "Le30Extend18Nu10Xx1734Le569Xx7Le31XxNu10Xx6Le79XxNu10Xx6Le30Xx2Extend5Xx11Le48Extend7Xx9Le4",
    "Xx12Nu10Xx9Le21Xx5Le19Xx432Le45Xx3Nu10Xx198Le64Xx128Le75Xx4ExtendLeExtend55Xx7Extend4Le13",
    "Xx64Le2XxLeExtendXx11Extend2Xx16382Ka4XxKa7XxKa2XxKaXx287Ka3Xx50KaXx14Ka4Xx2712Le107Xx5Le13",
    "Xx3Le9Xx7Le10Xx3Extend2XxFo4Xx4172Nu10Xx518Extend46Xx2Extend23Xx542Extend5Xx3Extend6Fo8",
    "Extend8Xx2Extend7Xx30Extend4Xx148Extend3Xx443Le85XxLe71XxLe2Xx2LeXx2Le2Xx2Le4XxLe12XxLeXxLe7",
    "XxLe65XxLe4Xx2Le8XxLe7XxLe28XxLe4XxLe5XxLeXx3Le7XxLe340Xx2Le25XxLe25XxLe31XxLe25XxLe31XxLe25",
    "XxLe31XxLe25XxLe31XxLe25XxLe8Xx2Nu50Xx512Extend55Xx4Extend50Xx8ExtendXx14ExtendXx22Extend5Xx",
    "Extend15Xx1104Le31Xx6Le6Xx213Extend7XxExtend17Xx2Extend7XxExtend2XxExtend5Xx5Le62Xx33Extend",
    "Xx112Le45Xx3Extend7Le7Xx2Nu10Xx4LeXx321Le30ExtendXx17Le44Extend4Nu10Xx470Le28Extend4Nu10",
    "Xx214Le30Extend2LeNu10Xx485Le7XxLe4XxLe2XxLe15XxLe197Xx11Extend7Xx41Le68Extend7LeXx4Nu10",
    "Xx1190Le4XxLe27XxLe2XxLeXx2LeXxLe10XxLe4XxLeXxLeXx6LeXx4LeXxLeXxLeXxLe3XxLe2XxLeXx2LeXxLeXx",
    "LeXxLeXxLeXxLe2XxLeXx2Le4XxLe7XxLe4XxLe4XxLeXxLe10XxLe17Xx5Le3XxLe5XxLe17Xx628Le26Xx6Le26Xx6",
    "Le26Xx92Ri26Xx507Extend5Xx2032Nu10Xx787463FoXx30Extend96Xx128Extend240Xx196112"]

/-- The sentence properties of the code points, in runs. -/
def sentenceRuns : List String :=
  ["Xx9SpLfSp2CrXx18SpStClXx4Cl3Xx2Sc2AtXxNu10Sc2Xx3StXxUp26ClXxClXx3Lo26ClXxClXx7SeXx26SpXx9Lo",
    "ClXxFoXx7LoXx4LoClXx4Up23XxUp7Lo24XxLo8UpLoUpLoUpLoUpLoUpLoUpLoUpLoUpLoUpLoUpLoUpLoUpLoUpLo",
    "UpLoUpLoUpLoUpLoUpLoUpLoUpLoUpLoUpLoUpLoUpLoUpLoUpLoUpLoUpLo2UpLoUpLoUpLoUpLoUpLoUpLoUpLoUp",
    "Lo2UpLoUpLoUpLoUpLoUpLoUpLoUpLoUpLoUpLoUpLoUpLoUpLoUpLoUpLoUpLoUpLoUpLoUpLoUpLoUpLoUpLoUpLo",
    "UpLoUp2LoUpLoUpLo3Up2LoUpLoUp2LoUp3Lo2Up4LoUp2LoUp3Lo3Up2LoUp2LoUpLoUpLoUp2LoUpLo2UpLoUp2Lo",
    "Up3LoUpLoUp2Lo2LeUpLo3Le4Up2LoUp2LoUp2LoUpLoUpLoUpLoUpLoUpLoUpLoUpLoUpLo2UpLoUpLoUpLoUpLoUp",
    "LoUpLoUpLoUpLoUpLo2Up2LoUpLoUp3LoUpLoUpLoUpLoUpLoUpLoUpLoUpLoUpLoUpLoUpLoUpLoUpLoUpLoUpLoUp",
    "LoUpLoUpLoUpLoUpLoUpLoUpLoUpLoUpLoUpLoUpLoUpLoUpLoUpLoUpLo7Up2LoUp2Lo2UpLoUp4LoUpLoUpLoUpLo",
    "UpLo69LeLo36Le7Lo2Xx4Le12Xx14Lo5Xx7LeXxLeXx17Ex112UpLoUpLoLeXxUpLoXx2Lo4ScUpXx6UpXxUp3XxUpXx",
    "Up2LoUp17XxUp9Lo35UpLo2Up3Lo3UpLoUpLoUpLoUpLoUpLoUpLoUpLoUpLoUpLoUpLoUpLoUpLo5UpLoXxUpLoUp2",
    "Lo2Up51Lo48UpLoUpLoUpLoUpLoUpLoUpLoUpLoUpLoUpLoUpLoUpLoUpLoUpLoUpLoUpLoUpLoUpLoXxEx7UpLoUpLo",
    "UpLoUpLoUpLoUpLoUpLoUpLoUpLoUpLoUpLoUpLoUpLoUpLoUpLoUpLoUpLoUpLoUpLoUpLoUpLoUpLoUpLoUpLoUpLo",
    "UpLoUpLoUp2LoUpLoUpLoUpLoUpLoUpLoUpLo2UpLoUpLoUpLoUpLoUpLoUpLoUpLoUpLoUpLoUpLoUpLoUpLoUpLoUp",
    "LoUpLoUpLoUpLoUpLoUpLoUpLoUpLoUpLoUpLoUpLoUpLoUpLoUpLoUpLoUpLoUpLoUpLoUpLoUpLoUpLoUpLoUpLoUp",
    "LoUpLoUpLoUpLoUpLoUpLoUpLoUpLoUpLoUpLoUpLoUpLoXxUp38Xx2LeXx3ScXx2Lo41StXx7Ex45XxExXxEx2XxEx2",
    "XxExXx8Le27Xx4Le5Xx12Nu6Xx6Sc2Xx2Ex11XxFoSt3Le43Ex21Nu10XxNu2XxLe2ExLe99StLeEx7NuXxEx6Le2Ex2",
    "XxEx4Le2Nu10Le3Xx2LeSt3Xx12FoLeExLe30Ex27Xx2Le89Ex11LeXx14Nu10Le33Ex9Le2Xx2ScStLeXx2ExXx2",
    "Le22Ex4LeEx9LeEx3LeEx5Xx9StXxStXx3St2XxLe25Ex3Xx4Le11Xx5Le24XxLe6XxNu2Xx5Ex9Le42Ex24NuEx33",
    "Le54Ex3LeEx18LeEx7Le10Ex2St2Nu10XxLe16Ex3XxLe8Xx2Le2Xx2Le22XxLe7XxLeXx3Le4Xx2ExLeEx7Xx2Ex2",
    "Xx2Ex3LeXx8ExXx4Le2XxLe3Ex2Xx2Nu10Le2Xx10LeXxExXx2Ex3XxLe6Xx4Le2Xx2Le22XxLe7XxLe2XxLe2XxLe2",
    "Xx2ExXxEx5Xx4Ex2Xx2Ex3Xx3ExXx7Le4XxLeXx7Nu10Ex2Le3ExXx11Ex3XxLe9XxLe3XxLe22XxLe7XxLe2XxLe5",
    "Xx2ExLeEx8XxEx3XxEx3Xx2LeXx15Le2Ex2Xx2Nu10Xx9LeEx6XxEx3XxLe8Xx2Le2Xx2Le22XxLe7XxLe2XxLe5Xx2",
    "ExLeEx7Xx2Ex2Xx2Ex3Xx7Ex3Xx4Le2XxLe3Ex2Xx2Nu10XxLeXx16ExLeXxLe6Xx3Le3XxLe4Xx3Le2XxLeXxLe2Xx3",
    "Le2Xx3Le3Xx3Le12Xx4Ex5Xx3Ex3XxEx4Xx2LeXx6ExXx14Nu10Xx16Ex5Le8XxLe3XxLe23XxLe16Xx2ExLeEx7Xx",
    "Ex3XxEx4Xx7Ex2XxLe3Xx2LeXx2Le2Ex2Xx2Nu10Xx16LeEx3XxLe8XxLe3XxLe23XxLe10XxLe5Xx2ExLeEx7XxEx3",
    "XxEx4Xx7Ex2Xx6Le2XxLe2Ex2Xx2Nu10XxLe2ExXx12Ex4Le9XxLe3XxLe41Ex2LeEx7XxEx3XxEx4LeXx5Le3ExXx7",
    "Le3Ex2Xx2Nu10Xx10Le6XxEx3XxLe18Xx3Le24XxLe9XxLeXx2Le7Xx3ExXx4Ex6XxExXxEx8Xx6Nu10Xx2Ex2Xx13",
    "Le48ExLe2Ex7Xx5Le7Ex8XxNu10Xx39Le2XxLeXxLe5XxLe24XxLeXxLe10ExLe2Ex9LeXx2Le5XxLeXxEx7XxNu10",
    "Xx2Le4Xx32LeXx23Ex2Xx6Nu10Xx11ExXxExXxExCl4Ex2Le8XxLe36Xx4Ex20XxEx2Le5Ex11XxEx36Xx9ExXx57",
    "Le43Ex20LeNu10St2Xx4Le6Ex4Le4Ex3LeEx3Le2Ex7Le3Ex4Le13Ex12LeExNu10Ex4Xx2Up38XxUpXx5UpXx2Le43",
    "XxLoLe332XxLe4Xx2Le7XxLeXxLe4Xx2Le41XxLe4Xx2Le33XxLe4Xx2Le7XxLeXxLe4Xx2Le15XxLe57XxLe4Xx2",
    "Le67Xx2Ex3Xx2StXx4St2Xx23Le16Xx16Up86Xx2Lo6Xx3Le620XxStLe17SpLe26Cl2Xx3Le75Xx3Le11Xx7Le18Ex4",
    "Xx9Le19Ex3St2Xx9Le18Ex2Xx12Le13XxLe3XxEx2Xx12Le52Ex32St2XxLeXx4LeExXx2Nu10Xx24ScStXx4ScStXx",
    "Ex3FoExNu10Xx6Le89Xx7Le5Ex2Le34ExLeXx5Le70Xx10Le31XxEx12Xx4Ex12Xx8St2Nu10Le30Xx2Le5Xx11Le44",
    "Xx4Le26Xx6Nu10Xx38Le23Ex5Xx4Le53Ex10XxEx29Xx2ExNu10Xx6Nu10Xx13LeSt4Xx4Ex31Xx49Ex5Le47Ex17Le8",
    "XxSt2Nu10St2Xx2St2Xx11Ex9Xx9St3Ex3Le30Ex13Le2Nu10Le44Ex14Xx12Le36Ex20Xx3St2Xx3Nu10Xx3Le3Nu10",
    "Le36St2Lo9UpLoXx5Le43Xx2Le3Xx16Ex3XxEx21Le4ExLe6ExLe2Ex3LeXx5Lo192Ex64UpLoUpLoUpLoUpLoUpLoUp",
    "LoUpLoUpLoUpLoUpLoUpLoUpLoUpLoUpLoUpLoUpLoUpLoUpLoUpLoUpLoUpLoUpLoUpLoUpLoUpLoUpLoUpLoUpLoUp",
    "LoUpLoUpLoUpLoUpLoUpLoUpLoUpLoUpLoUpLoUpLoUpLoUpLoUpLoUpLoUpLoUpLoUpLoUpLoUpLoUpLoUpLoUpLoUp",
    "LoUpLoUpLoUpLoUpLoUpLoUpLoUpLoUpLoUpLoUpLoUpLoUpLoUpLoUpLoUpLoUpLoUpLoUpLoUpLoUpLoUpLoUpLoUp",
    "Lo9UpLoUpLoUpLoUpLoUpLoUpLoUpLoUpLoUpLoUpLoUpLoUpLoUpLoUpLoUpLoUpLoUpLoUpLoUpLoUpLoUpLoUpLo",
    "UpLoUpLoUpLoUpLoUpLoUpLoUpLoUpLoUpLoUpLoUpLoUpLoUpLoUpLoUpLoUpLoUpLoUpLoUpLoUpLoUpLoUpLoUpLo",
    "UpLoUpLoUpLoUpLo9Up8Lo6Xx2Up6Xx2Lo8Up8Lo8Up8Lo6Xx2Up6Xx2Lo8XxUpXxUpXxUpXxUpLo8Up8Lo14Xx2Lo8",
    "Up8Lo8Up8Lo8Up8Lo5XxLo2Up5XxLoXx3Lo3XxLo2Up5Xx3Lo4Xx2Lo2Up4Xx4Lo8Up5Xx5Lo3XxLo2Up5Xx3Sp11Fo",
    "Ex2Fo2Xx3Sc2Xx3Cl8Xx4AtXx3Se2Fo5SpXx9Cl2XxSt2Xx7Cl2St3Xx21SpFo5XxFo10XxLoXx11Cl2LoXx13Cl2Xx",
    "Lo13Xx51Ex33Xx17UpXx4UpXx2LoUp3Lo2Up3LoXxUpXx3Up5Xx6UpXxUpXxUpXxUp4XxLoUp4LoLe4LoXx2Lo2Up2",
    "Xx5UpLo4Xx4LoXx17Up16Lo16Le3UpLoLe4Xx383Cl4Xx29Cl2Xx395Up26Lo26Xx625Cl6Xx7Cl14Xx79Cl2Xx31",
    "Cl10Xx403Cl22Xx63Cl4Xx32Cl2Xx514Up48Lo48UpLoUp3Lo2UpLoUpLoUpLoUp4LoUpLo2UpLo8Up3LoUpLoUpLoUp",
    "LoUpLoUpLoUpLoUpLoUpLoUpLoUpLoUpLoUpLoUpLoUpLoUpLoUpLoUpLoUpLoUpLoUpLoUpLoUpLoUpLoUpLoUpLoUp",
    "LoUpLoUpLoUpLoUpLoUpLoUpLoUpLoUpLoUpLoUpLoUpLoUpLoUpLoUpLoUpLoUpLoUpLoUpLoUpLoUpLoUpLoUpLoUp",
    "Lo2Xx6UpLoUpLoEx3UpLoXx5St3Xx4Lo38XxLoXx5LoXx2Le56Xx7LeXx15ExLe23Xx9Le7XxLe7XxLe7XxLe7XxLe7",
    "XxLe7XxLe7XxLe7XxEx32Cl14Xx14Cl2Xx2Cl10Xx4StLeXx12StXx5ClXx16St2Cl8Xx419SpScStXx2Le3Cl10Xx2",
    "Cl8XxCl3XxLe9Ex6XxLe5Xx2Le5Xx4Le86Xx2Ex2Xx2Le3XxLe90XxLe4Xx5Le43XxLe94Xx17Le32Xx48Le16Xx512",
    "Le6592Xx64Le22157Xx67Le46XxStLe269XxSt2Le16Nu10Le2Xx20UpLoUpLoUpLoUpLoUpLoUpLoUpLoUpLoUpLoUp",
    "LoUpLoUpLoUpLoUpLoUpLoUpLoUpLoUpLoUpLoUpLoUpLoUpLoUpLoLeEx4XxEx10XxLeUpLoUpLoUpLoUpLoUpLoUp",
    "LoUpLoUpLoUpLoUpLoUpLoUpLoUpLoUpLo3Ex2Le80Ex2XxStXx3StXx31Le9Xx2UpLoUpLoUpLoUpLoUpLoUpLoUp",
    "Lo3UpLoUpLoUpLoUpLoUpLoUpLoUpLoUpLoUpLoUpLoUpLoUpLoUpLoUpLoUpLoUpLoUpLoUpLoUpLoUpLoUpLoUpLo",
    "UpLoUpLoUpLoUpLoUpLoUpLoUpLoUpLoUpLo10UpLoUpLoUp2LoUpLoUpLoUpLoUpLoLeXx2UpLoUpLoLeUpLoUpLo3",
    "UpLoUpLoUpLoUpLoUpLoUpLoUpLoUpLoUpLoUpLoUp5LoUp5LoUpLoUpLoUpLoUpLoUpLoUpLoUpLoUp4LoUpLoUp2Lo",
    "Xx2UpLoXxLoXxLoUpLoUpLoUpLoUpXx21Lo3UpLoLeLo3Le7ExLe3ExLe4ExLe23Ex5Xx4ExXx19Le52Xx2St2Xx8Ex2",
    "Le50Ex18Xx8St2Nu10Xx6Ex18Le6Xx3LeXxLe2ExNu10Le28Ex8XxStLe23Ex13Xx12Le29Xx3Ex4Le47Ex14Xx7St2",
    "Xx5LeNu10Xx6Le5ExLe10Nu10Le5XxLe41Ex14Xx9Le3ExLe8Ex2Xx2Nu10Xx3St3Le23Xx3LeEx3Le50ExLeEx3Le2",
    "Ex2Le5Ex2LeExLeXx24Le3Xx2Le11Ex5St2Le3Ex2Xx10Le6Xx2Le6Xx2Le6Xx9Le7XxLe7XxLo43XxLo14Xx6Lo80",
    "Le35Ex8StEx2Xx2Nu10Xx6Le11172Xx12Le23Xx4Le49Xx8452Le366Xx2Le106Xx38Lo7Xx12Lo5Xx5LeExLe10Xx",
    "Le13XxLe5XxLeXxLe2XxLe2XxLe108Xx33Le363Cl2Xx16Le64Xx2Le54Xx40Le12Xx4Ex16Sc2StSc2St2Cl2Xx7",
    "Ex16XxSc2Xx2Cl16Xx2Cl2Xx7Sc2AtXxSc2St2ScCl6Xx4ScXx12Le5XxLe135Xx2FoXxStXx6Cl2Xx2Sc2AtXxNu10",
    "Sc2Xx3StXxUp26ClXxClXx3Lo26ClXxClXxCl2StCl2ScXxLe56Ex2Le31Xx3Le6Xx2Le6Xx2Le6Xx2Le3Xx28Fo3Xx4",
    "Le12XxLe26XxLe19XxLe2XxLe15Xx2Le14Xx34Le123Xx69Le53Xx136ExXx130Le29Xx3Le49Xx15ExXx31Le32Xx13",
    "Le30Xx5Le38Ex5Xx5Le30Xx2Le36Xx4Le8XxLe5Xx42Up40Lo40Le78Xx2Nu10Xx6Up36Xx4Lo36Xx4Le40Xx8Le52",
    "Xx12Up11XxUp15XxUp7XxUp2XxLo11XxLo15XxLo7XxLo2Xx3Le52Xx12Le311Xx9Le22Xx10Le8Xx24LoLe2Lo3Xx",
    "Lo42XxLo9Xx69Le6Xx2LeXxLe44XxLe2Xx3LeXx2Le23Xx10Le23Xx9Le31Xx65Le19XxLe2Xx10Le22Xx10Le26Xx70",
    "Le56Xx6Le2Xx64LeEx3XxEx2Xx5Ex4Le4XxLe3XxLe29Xx2Ex3Xx4ExXx22St2Xx8Le29Xx3Le29Xx35Le8XxLe28Ex2",
    "Xx25Le54Xx10Le22Xx10Le19Xx13Le18Xx110Le73Xx55Up51Xx13Lo51Xx13Le36Ex4Xx8Nu10Xx6Nu10Le6Up22Xx3",
    "Ex5XxLeLo22Xx250Le42XxEx2Xx3Le2Xx16Le3Xx55Ex4Le29Xx10LeXx8Le22Ex11Xx4St5Xx22Le18Ex4St4Xx38",
    "Le21Xx27Le23Xx9Ex3Le53Ex15St2Xx29Nu10ExLe2Ex2LeXx9Ex4Le45Ex11Xx2NuSt4ExXx10NuXx2Le25Xx7Nu10",
    "Xx6Ex3Le36Ex14XxNu10XxSt3LeEx2LeXx8Le35ExXx2LeXx9Ex3Le48Ex14Le4St2Xx2Ex4StEx2Nu10LeXxLeXxSt2",
    "Xx32Le18XxLe25Ex12St2XxSt2XxExLe2ExXx62Le7XxLeXxLe4XxLe15XxLe10StXx6Le47Ex12Xx5Nu10Xx6Ex4Xx",
    "Le8Xx2Le2Xx2Le22XxLe7XxLe2XxLe5XxEx2LeEx7Xx2Ex2Xx2Ex3Xx2LeXx6ExXx5Le5Ex2Xx2Ex7Xx3Ex5Xx11Le10",
    "XxLeXx2LeXxLe38XxLeEx9XxExXx2ExXxEx4XxEx5LeExLeSt2Xx11Ex2Xx29Le53Ex18Le4St2Xx3Nu10Xx4ExLe3",
    "Xx30Le48Ex20Le2XxLeXx8Nu10Xx166Le47Ex7Xx2Ex9XxSt2Xx5St15Le4Ex2Xx34Le48Ex17St2XxLeXx11Nu10",
    "Xx38Le43Ex13LeXx7Nu10Xx6Nu20Xx28Le27Xx2Ex15Xx4Nu10Xx2St3XxLe7Xx185Le44Ex15Xx101Up32Lo32Nu10",
    "Xx21Le8Xx2LeXx2Le8XxLe2XxLe24Ex6XxEx2Xx2Ex4LeExLeEx2StXxStXx9Nu10Xx70Le8Xx2Le39Ex7Xx2Ex7LeXx",
    "LeExXx27LeEx10Le40Ex7LeEx4Xx3St2Xx3ExXx8LeEx11Le46Ex16XxSt2LeXx18Le73Xx199Le33Xx15Nu10Xx6Le9",
    "XxLe37Ex8XxEx8LeSt2Xx13Nu10Xx24Le30Xx2Ex22XxEx14Xx73Le7XxLe2XxLe38Ex6Xx3ExXxEx2XxEx7LeExXx8",
    "Nu10Xx6Le6XxLe2XxLe32Ex5XxEx2XxEx5LeXx7Nu10Xx310Le19Ex4St2Xx7Ex2LeExLe13XxLe34Ex7Xx3Ex5St2",
    "Xx11Nu10ExXx85LeXx79Le922Xx102Le111Xx17Le196Xx2636Le97Xx15Le1072Fo16ExLe6Ex15Xx10Le3995Xx5",
    "Le583Xx6841Le30Ex18Nu10Xx1734Le569Xx7Le31XxNu10Xx4St2Le79XxNu10Xx6Le30Xx2Ex5StXx10Le48Ex7St2",
    "Xx7Le4StXx11Nu10Xx9Le21Xx5Le19Xx432Le45XxSt2Nu10Xx198Up32Lo32Xx24StXx103Le75Xx4ExLeEx55Xx7",
    "Ex4Le13Xx64Le2XxLeExXx11Ex2Xx14Le6136Xx8Le1238Xx41Le10Xx8935Le4XxLe7XxLe2XxLe291Xx15LeXx29",
    "Le3Xx2LeXx14Le4Xx8Le396Xx2308Le107Xx5Le13Xx3Le9Xx7Le10Xx3Ex2StFo4Xx4172Nu10Xx518Ex46Xx2Ex23",
    "Xx542Ex5Xx3Ex6Fo8Ex8Xx2Ex7Xx30Ex4Xx148Ex3Xx443Up26Lo26Up26Lo7XxLo18Up26Lo26UpXxUp2Xx2UpXx2",
    "Up2Xx2Up4XxUp8Lo4XxLoXxLo7XxLo11Up26Lo26Up2XxUp4Xx2Up8XxUp7XxLo26Up2XxUp4XxUp5XxUpXx3Up7Xx",
    "Lo26Up26Lo26Up26Lo26Up26Lo26Up26Lo26Up26Lo26Up26Lo28Xx2Up25XxLo25XxLo6Up25XxLo25XxLo6Up25Xx",
    "Lo25XxLo6Up25XxLo25XxLo6Up25XxLo25XxLo6UpLoXx2Nu50Xx512Ex55Xx4Ex50Xx8ExXx14ExXx3StXx18Ex5Xx",
    "Ex15Xx1104Lo10LeLo20Xx6Lo6Xx213Ex7XxEx17Xx2Ex7XxEx2XxEx5Xx5Lo62Xx33ExXx112Le45Xx3Ex7Le7Xx2",
    "Nu10Xx4LeXx321Le30ExXx17Le44Ex4Nu10Xx470Le28Ex4Nu10Xx214Le30Ex2LeNu10Xx485Le7XxLe4XxLe2Xx",
    "Le15XxLe197Xx11Ex7Xx41Up34Lo34Ex7LeXx4Nu10Xx1190Le4XxLe27XxLe2XxLeXx2LeXxLe10XxLe4XxLeXxLe",
    "Xx6LeXx4LeXxLeXxLeXxLe3XxLe2XxLeXx2LeXxLeXxLeXxLeXxLeXxLe2XxLeXx2Le4XxLe7XxLe4XxLe4XxLeXx",
    "Le10XxLe17Xx5Le3XxLe5XxLe17Xx628Up26Xx6Up26Xx6Up26Xx1260Cl3Xx1399Nu10Xx1030Le42720Xx32Le4154",
    "Xx6Le222Xx2Le5762Xx14Le7473Xx15Le622Xx2466Le542Xx1506Le4939Xx5Le4192Xx711761FoXx30Ex96Xx128",
    "Ex240Xx196112"]

/-- The property `Grapheme_Cluster_Break`. -/
def graphemeBreak : Partition :=
  ⟨["gcb", "graphemeclusterbreak"], namedByCode
    [("Cn", ["Control"]), ("Cr", []), ("Eb", ["E_Base"]), ("Ebg", ["E_Base_GAZ"]),
    ("Em", ["E_Modifier"]), ("Ex", ["Extend"]), ("Gaz", ["Glue_After_Zwj"]), ("L", []),
    ("Lf", []), ("Lv", []), ("Lvt", []), ("Pp", ["Prepend"]), ("Ri", ["Regional_Indicator"]),
    ("Sm", ["SpacingMark"]), ("T", []), ("V", []), ("Xx", ["Other"]), ("Zwj", [])],
    ["Eb", "Ebg", "Em", "Gaz", "Xx"], graphemeRuns⟩

/-- The property `Word_Break`. -/
def wordBreak : Partition :=
  ⟨["wb", "wordbreak"], namedByCode
    [("Cr", []), ("Dq", ["Double_Quote"]), ("Eb", ["E_Base"]), ("Ebg", ["E_Base_GAZ"]),
    ("Em", ["E_Modifier"]), ("Ex", ["ExtendNumLet"]), ("Extend", []), ("Fo", ["Format"]),
    ("Gaz", ["Glue_After_Zwj"]), ("Hl", ["Hebrew_Letter"]), ("Ka", ["Katakana"]),
    ("Le", ["ALetter"]), ("Lf", []), ("Mb", ["MidNumLet"]), ("Ml", ["MidLetter"]),
    ("Mn", ["MidNum"]), ("Nl", ["Newline"]), ("Nu", ["Numeric"]), ("Ri", ["Regional_Indicator"]),
    ("Sq", ["Single_Quote"]), ("Wsegspace", []), ("Xx", ["Other"]), ("Zwj", [])],
    ["Eb", "Ebg", "Em", "Gaz", "Xx"], wordRuns⟩

/-- The property `Sentence_Break`. -/
def sentenceBreak : Partition :=
  ⟨["sb", "sentencebreak"], namedByCode
    [("At", ["ATerm"]), ("Cl", ["Close"]), ("Cr", []), ("Ex", ["Extend"]), ("Fo", ["Format"]),
    ("Le", ["OLetter"]), ("Lf", []), ("Lo", ["Lower"]), ("Nu", ["Numeric"]),
    ("Sc", ["SContinue"]), ("Se", ["Sep"]), ("Sp", []), ("St", ["STerm"]), ("Up", ["Upper"]),
    ("Xx", ["Other"])],
    ["Xx"], sentenceRuns⟩

end LineShell.Partition
