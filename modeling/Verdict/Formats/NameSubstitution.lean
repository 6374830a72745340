import Verdict.Text.Segments
import Verdict.Unicode.Edition

/-! What the characters of an international host name stand for: letters of any case,
width and style for small plain ones, ligatures and symbols for what they abbreviate. -/
namespace Verdict
namespace NameSubstitution

def ignored : ScalarSet := .ofText
  "ad 34f 115f-1160 17b4-17b5 180b-180f 200b 2060-2064 206a-206f 3164 fe00-fe0f feff ffa0
  1bca0-1bca3 1d173-1d17a e0100-e01ef"

def refused : ScalarSet := .ofText
  "80-9f 600-605 61c 6dd 70f 890-891 8e2 1680 200e-200f 2024-2026 2028-202e 2066-2069 2488-249b
  2ff0-2fff 31ef 33c2 33c7 33d8 e000-f8ff fe12 fe19 fe30 fe52 fff9-fffd 110bd 110cd 13430-1343f
  1f100 e0001 e0020-e007f f0000-ffffd 100000-10fffd"

/-- Characters that editions of the standard after 17 assign and that names can hold. -/
def recent : ScalarSet := .ofText
  "558 5c8 b53-b54 2e5e-2e60 12550-12686 16d80-16da9 18e00-19191 191a0-191d2 1f6d9 3d000-3fc3f"

def recentMarks : ScalarSet := .ofText "5c8 b53-b54"

def recentNeutrals : ScalarSet := .ofText "2e5e-2e60 1f6d9"

def recentlyPlaced : ScalarSet := .ofText "1b3a 1b42"

/-- Characters that stand for one at a fixed distance, by this distance. -/
def shifts : List (Int × ScalarSet) := [
  (32, .ofText
    "c0-d6 d8-de 391-3a1 3a3-3ab 410-42f 10d50-10d65 118a0-118bf 16e40-16e5f"),
  (1, .ofText
    "100-12e/2 134 136 139-13d/2 141-147/2 14a-176/2 179-17d/2 182 184 187 18b 191 198 1a0-1a4/2
    1a7 1ac 1af 1b3 1b5 1b8 1bc 1cd-1db/2 1de-1ee/2 1f4 1f8-21e/2 222-232/2 23b 241 246-24e/2 370
    372 376 3d8-3ee/2 3f7 3fa 460-480/2 48a-4be/2 4c1-4cd/2 4d0-52e/2 1c89 1e00-1e94/2 1ea0-1efe/2
    2183 2c60 2c67-2c6b/2 2c72 2c75 2c80-2ce2/2 2ceb 2ced 2cf2 a640-a66c/2 a680-a69a/2 a722-a72e/2
    a732-a76e/2 a779 a77b a77e-a786/2 a78b a790 a792 a796-a7a8/2 a7b4-a7c2/2 a7c7 a7c9 a7cc-a7da/2
    a7f5"),
  (64, .ofText "38c 10c80-10cb2"), (80, .ofText "400-40f"), (48, .ofText "531-556 2c00-2c2f"),
  (7264, .ofText "10a0-10c5 10c7 10cd"),
  (-8, .ofText
    "13f8-13fd 1f08-1f0f 1f18-1f1d 1f28-1f2f 1f38-1f3f 1f48-1f4d 1f59-1f5f/2 1f68-1f6f 1fb8-1fb9
    1fd8-1fd9 1fe8-1fe9"),
  (-3008, .ofText "1c90-1cba 1cbd-1cbf"), (-7372, .ofText "1d2e 1d30-1d31 1d33-1d3a 1d40-1d41"),
  (-6972, .ofText "1da4-1da6 1da9 1dae-1db1"), (-8256, .ofText "2070 2074-2079"),
  (-8272, .ofText "2080-2089"), (-9263, .ofText "2460-2468"), (-9301, .ofText "24b6-24cf"),
  (-9327, .ofText "24d0-24e9"), (-8074, .ofText "313a-313f"), (-8252, .ofText "3145-314e"),
  (-8174, .ofText "314f-3163"), (-8269, .ofText "3178-317c"), (-8539, .ofText "3269-326d"),
  (-538, .ofText "32e4-32e9"), (-528, .ofText "32ee-32f2"), (-525, .ofText "32f5-32fa"),
  (-38864, .ofText "ab70-abbf"), (-62692, .ofText "fb5e fb63 fb93 fb97 fb9e fba4"),
  (-62693, .ofText "fb5f fb64 fb8e fb94 fb98 fb9f-fba0 fba5-fba6"),
  (-62694, .ofText "fb60 fb65 fb8f fb95 fb99 fba1 fba7"),
  (-65248, .ofText "ff01-ff20 ff3b-ff5e"), (-65216, .ofText "ff21-ff3a"),
  (-52923, .ofText "ff85-ff8a"), (-52913, .ofText "ff8f-ff93"), (-52910, .ofText "ff96-ff9b"),
  (-60922, .ofText "ffaa-ffaf"), (-61100, .ofText "ffb5-ffbe"), (-61025, .ofText "ffc2-ffc7"),
  (-61027, .ofText "ffca-ffcf"), (-61029, .ofText "ffd2-ffd7"),
  (40, .ofText "10400-10427 104b0-104d3"),
  (39, .ofText "10570-1057a 1057c-1058a 1058c-10592 10594-10595"), (27, .ofText "16ea0-16eb8"),
  (-117877, .ofText "1ccd6-1ccef"), (-117952, .ofText "1ccf0-1ccf9"),
  (-119711, .ofText "1d400-1d419"), (-119737, .ofText "1d41a-1d433"),
  (-119763, .ofText "1d434-1d44d 1d78b"), (-119789, .ofText "1d44e-1d454 1d456-1d467 1d7ca"),
  (-119815, .ofText "1d468-1d481 1d7c8"), (-119841, .ofText "1d482-1d49b"),
  (-119867, .ofText "1d49c 1d49e-1d49f 1d4a2 1d4a5-1d4a6 1d4a9-1d4ac 1d4ae-1d4b5"),
  (-119893, .ofText "1d4b6-1d4b9 1d4bb 1d4bd-1d4c3 1d4c5-1d4cf"),
  (-119919, .ofText "1d4d0-1d4e9"), (-119945, .ofText "1d4ea-1d503"),
  (-119971, .ofText "1d504-1d505 1d507-1d50a 1d50d-1d514 1d516-1d51c"),
  (-119997, .ofText "1d51e-1d537"),
  (-120023, .ofText "1d538-1d539 1d53b-1d53e 1d540-1d544 1d546 1d54a-1d550"),
  (-120049, .ofText "1d552-1d56b"), (-120075, .ofText "1d56c-1d585"),
  (-120101, .ofText "1d586-1d59f"), (-120127, .ofText "1d5a0-1d5b9"),
  (-120153, .ofText "1d5ba-1d5d3"), (-120179, .ofText "1d5d4-1d5ed 1d6a4"),
  (-120205, .ofText "1d5ee-1d607"), (-120231, .ofText "1d608-1d621"),
  (-120257, .ofText "1d622-1d63b"), (-120283, .ofText "1d63c-1d655"),
  (-120309, .ofText "1d656-1d66f"), (-120335, .ofText "1d670-1d689"),
  (-120361, .ofText "1d68a-1d6a3"), (-119543, .ofText "1d6a8-1d6b8 1d6ba-1d6c0"),
  (-119569, .ofText "1d6c2-1d6d2 1d6d4-1d6da"), (-119601, .ofText "1d6e2-1d6f2 1d6f4-1d6fa"),
  (-119627, .ofText "1d6fc-1d70c 1d70e-1d714"), (-119659, .ofText "1d71c-1d72c 1d72e-1d734"),
  (-119685, .ofText "1d736-1d746 1d748-1d74e"), (-119717, .ofText "1d756-1d766 1d768-1d76e"),
  (-119743, .ofText "1d770-1d780 1d782-1d788"), (-119775, .ofText "1d790-1d7a0 1d7a2-1d7a8"),
  (-119801, .ofText "1d7aa-1d7ba 1d7bc-1d7c2"), (-120734, .ofText "1d7ce-1d7d7"),
  (-120744, .ofText "1d7d8-1d7e1"), (-120754, .ofText "1d7e2-1d7eb"),
  (-120764, .ofText "1d7ec-1d7f5"), (-120774, .ofText "1d7f6-1d7ff"),
  (-121856, .ofText "1e030-1e038"), (-121854, .ofText "1e03c-1e046"),
  (-121889, .ofText "1e051-1e059"), (-121884, .ofText "1e05f-1e064"),
  (34, .ofText "1e900-1e921"), (-127183, .ofText "1f130-1f149"),
  (-129984, .ofText "1fbf0-1fbf9")]

/-- Characters that stand for one other, in the order of the former from the given one on. -/
def letters : List (Nat × String) := [
  (0xa0, " "), (0xaa, "a"), (0xb2, "23"), (0xb5, "μ"), (0xb9, "1o"), (0x178, "ÿ"), (0x17f, "s"),
  (0x181, "ɓ"), (0x186, "ɔ"), (0x189, "ɖɗ"), (0x18e, "ǝəɛ"), (0x193, "ɠɣ"), (0x196, "ɩɨ"),
  (0x19c, "ɯɲ"), (0x19f, "ɵ"), (0x1a6, "ʀ"), (0x1a9, "ʃ"), (0x1ae, "ʈ"), (0x1b1, "ʊʋ"),
  (0x1b7, "ʒ"), (0x1f6, "ƕƿ"), (0x220, "ƞ"), (0x23a, "ⱥ"), (0x23d, "ƚⱦ"), (0x243, "ƀʉʌ"),
  (0x2b0, "hɦjrɹɻʁwy"), (0x2e0, "ɣlsxʕ"), (0x340, "\u0300\u0301"), (0x343, "\u0313"),
  (0x345, "ι"), (0x374, "\u02b9"), (0x37e, ";ϳ"), (0x386, "ά·έήί"), (0x38e, "ύώ"),
  (0x3cf, "ϗβθυύϋφπ"), (0x3f0, "κρσ"), (0x3f4, "θε"), (0x3f9, "σ"), (0x3fd, "ͻͼͽ"), (0x4c0, "ӏ"),
  (0xf0c, "་"), (0x10fc, "ნ"), (0x1c80, "вдосттъѣꙋ"), (0x1d2c, "aæ"), (0x1d32, "ǝ"),
  (0x1d3c, "oȣpr"), (0x1d42, "waɐɑᴂbdeəɛɜg"), (0x1d4f, "kmŋoɔᴖᴗptuᴝɯvᴥβγδφχiruvβγρφχ"),
  (0x1d78, "н"), (0x1d9b, "ɒcɕðɜfɟɡɥ"), (0x1da7, "ᵻʝ"), (0x1daa, "ᶅʟɱɰ"),
  (0x1db2, "ɸʂʃƫʉʊᴜʋʌzʐʑʒθ"), (0x1e9b, "ṡ"), (0x1e9e, "ß"), (0x1f71, "ά"), (0x1f73, "έ"),
  (0x1f75, "ή"), (0x1f77, "ί"), (0x1f79, "ό"), (0x1f7b, "ύ"), (0x1f7d, "ώ"), (0x1fba, "ὰά"),
  (0x1fbe, "ι"), (0x1fc8, "ὲέὴή"), (0x1fd3, "ΐ"), (0x1fda, "ὶί"), (0x1fe3, "ΰ"), (0x1fea, "ὺύῥ"),
  (0x1fef, "`"), (0x1ff8, "ὸόὼώ"), (0x2000, "           "), (0x2011, "‐"), (0x202f, " "),
  (0x205f, " "), (0x2071, "i"), (0x207a, "+−=()n"), (0x208a, "+−=()"), (0x2090, "aeoxəhklmnpst"),
  (0x2102, "c"), (0x2107, "ɛ"), (0x210a, "ghhhhħiill"), (0x2115, "n"), (0x2119, "pqrrr"),
  (0x2124, "z"), (0x2126, "ω"), (0x2128, "z"), (0x212a, "kåbc"),
  (0x212f, "eefⅎmo\u05d0\u05d1\u05d2\u05d3i"), (0x213c, "πγγπ∑"), (0x2145, "ddeij"),
  (0x2160, "i"), (0x2164, "v"), (0x2169, "x"), (0x216c, "lcdmi"), (0x2174, "v"), (0x2179, "x"),
  (0x217c, "lcdm"), (0x2329, "〈〉"), (0x24ea, "0"), (0x2c62, "ɫᵽɽ"), (0x2c6d, "ɑɱɐɒ"),
  (0x2c7c, "jvȿɀ"), (0x2d6f, "ⵡ"), (0x2e9f, "母"), (0x2ef3, "龟"),
  (0x2f00, "一丨丶丿乙亅二亠人儿入八冂冖冫几凵刀力勹匕匚匸十卜卩厂厶又口囗土士夂夊夕大女子宀寸小尢尸屮山巛工己巾干幺广廴廾弋弓彐彡彳心戈戶手支攴文斗斤方无日曰月木欠止歹殳毋比毛氏气"),
  (0x2f54, "水火爪父爻爿片牙牛犬玄玉瓜瓦甘生用田疋疒癶白皮皿目矛矢石示禸禾穴立竹米糸缶网羊羽老而耒耳聿肉臣自至臼舌舛舟艮色艸虍虫血行衣襾見角言谷豆豕豸貝赤走足身車辛辰辵邑酉釆里金長"),
  (0x2fa8, "門阜隶隹雨靑非面革韋韭音頁風飛食首香馬骨高髟鬥鬯鬲鬼魚鳥鹵鹿麥麻黃黍黑黹黽鼎鼓鼠鼻齊齒龍龜龠"), (0x3000, " "), (0x3002, "."),
  (0x3036, "〒"), (0x3038, "十卄卅"),
  (0x3131, "\u1100\u1101\u11aa\u1102\u11ac\u11ad\u1103\u1104\u1105"),
  (0x3140, "\u111a\u1106\u1107\u1108\u1121"),
  (0x3165, "\u1114\u1115\u11c7\u11c8\u11cc\u11ce\u11d3\u11d7\u11d9\u111c\u11dd\u11df\u111d\u111e"),
  (0x3173, "\u1120\u1122\u1123\u1127\u1129"),
  (0x317d, "\u1132\u1136\u1140\u1147\u114c\u11f1\u11f2\u1157\u1158\u1159\u1184\u1185\u1188\u1191"),
  (0x318b, "\u1192\u1194\u119e\u11a1"), (0x3192, "一二三四上中下甲乙丙丁天地人"), (0x3244, "問幼文箏"),
  (0x3260, "\u1100\u1102\u1103\u1105\u1106\u1107\u1109\u110b\u110c"), (0x326e, "가나다라마바사아자차카타파하"),
  (0x327e, "우"), (0x3280, "一二三四五六七八九十月火水木金土日株有社名特財祝労秘男女適優印注項休写正上中下左右医宗学監企資協夜"),
  (0x32d0, "アイウエオカキクケコサシスセソタチツテト"), (0x32ea, "ヒフヘホ"), (0x32f3, "ヤユ"), (0x32fb, "ワヰヱヲ"),
  (0xa69c, "ъь"), (0xa770, "ꝯ"), (0xa77d, "ᵹ"), (0xa78d, "ɥ"), (0xa7aa, "ɦɜɡɬɪ"),
  (0xa7b0, "ʞʇʝꭓ"), (0xa7c4, "ꞔʂᶎ"), (0xa7cb, "ɤ"), (0xa7dc, "ƛ"), (0xa7f1, "scfq"),
  (0xa7f8, "ħœ"), (0xab5c, "ꜧꬷɫꭒ"), (0xab69, "ʍ"),
  (0xf900, "豈更車賈滑串句龜龜契金喇奈懶癩羅蘿螺裸邏樂洛烙珞落酪駱亂卵欄爛蘭鸞嵐濫藍襤拉臘蠟廊朗浪狼郎來冷勞擄櫓爐盧老蘆虜路露魯鷺碌祿綠菉錄鹿論壟弄籠聾牢磊賂雷壘屢樓淚漏累縷陋勒肋"),
  (0xf954, "凜凌稜綾菱陵讀拏樂諾丹寧怒率異北磻便復不泌數索參塞省葉說殺辰沈拾若掠略亮兩凉梁糧良諒量勵呂女廬旅濾礪閭驪麗黎力曆歷轢年憐戀撚漣煉璉秊練聯輦蓮連鍊列劣咽烈裂說廉念捻殮簾獵"),
  (0xf9a8, "令囹寧嶺怜玲瑩羚聆鈴零靈領例禮醴隸惡了僚寮尿料樂燎療蓼遼龍暈阮劉杻柳流溜琉留硫紐類六戮陸倫崙淪輪律慄栗率隆利吏履易李梨泥理痢罹裏裡里離匿溺吝燐璘藺隣鱗麟林淋臨立笠粒狀炙"),
  (0xf9fc, "識什茶刺切度拓糖宅洞暴輻行降見廓兀嗀"), (0xfa10, "塚"), (0xfa12, "晴"), (0xfa15, "凞猪益礼神祥福靖精羽"),
  (0xfa20, "蘒"), (0xfa22, "諸"), (0xfa25, "逸都"),
  (0xfa2a, "飯飼館鶴郞隷侮僧免勉勤卑喝嘆器塀墨層屮悔慨憎懲敏既暑梅海渚漢煮爫琢碑社祉祈祐祖祝禍禎穀突節練縉繁署者臭艹艹著褐視謁謹賓贈辶逸難響頻恵𤋮舘"),
  (0xfa70, "並况全侀充冀勇勺喝啕喙嗢塚墳奄奔婢嬨廒廙彩徭惘慎愈憎慠懲戴揄搜摒敖晴朗望杖歹殺流滛滋漢瀞煮瞧爵犯猪瑱甆画瘝瘟益盛直睊着磌窱節类絛練缾者荒華蝹襁覆視調諸請謁諾諭謹變贈輸遲"),
  (0xfac4, "醙鉶陼難靖韛響頋頻鬒龜𢡊𢡄𣏕㮝䀘䀹𥉉𥳐𧻓齃龎"),
  (0xfb20, "\u05e2\u05d0\u05d3\u05d4\u05db\u05dc\u05dd\u05e8\u05ea+"),
  (0xfb50, "\u0671\u0671\u067b\u067b\u067b\u067b\u067e\u067e\u067e\u067e\u0680\u0680\u0680\u0680"),
  (0xfb61, "\u067a\u067f"),
  (0xfb66, "\u0679\u0679\u0679\u0679\u06a4\u06a4\u06a4\u06a4\u06a6\u06a6\u06a6\u06a6\u0684\u0684"),
  (0xfb74, "\u0684\u0684\u0683\u0683\u0683\u0683\u0686\u0686\u0686\u0686\u0687\u0687\u0687\u0687"),
  (0xfb82, "\u068d\u068d\u068c\u068c\u068e\u068e\u0688\u0688\u0698\u0698\u0691\u0691"),
  (0xfb90, "\u06a9\u06a9\u06af"), (0xfb96, "\u06b3"), (0xfb9a, "\u06b1\u06b1\u06b1\u06b1"),
  (0xfba2, "\u06bb\u06bb"),
  (0xfba8, "\u06c1\u06c1\u06be\u06be\u06be\u06be\u06d2\u06d2\u06d3\u06d3"),
  (0xfbd3, "\u06ad\u06ad\u06ad\u06ad\u06c7\u06c7\u06c6\u06c6\u06c8\u06c8"),
  (0xfbde, "\u06cb\u06cb\u06c5\u06c5\u06c9\u06c9\u06d0\u06d0\u06d0\u06d0\u0649\u0649"),
  (0xfbfc, "\u06cc\u06cc\u06cc\u06cc"), (0xfe10, ",、"), (0xfe13, ":;!?〖〗"),
  (0xfe31, "—–__()\x7b\x7d〔〕【】《》〈〉「」『』"), (0xfe47, "[]"), (0xfe4d, "___,、"),
  (0xfe54, ";:?!—()\x7b\x7d〔〕#&*+-<>="), (0xfe68, "\\$%@"),
  (0xfe80, "\u0621\u0622\u0622\u0623\u0623\u0624\u0624\u0625\u0625\u0626\u0626\u0626\u0626\u0627"),
  (0xfe8e, "\u0627\u0628\u0628\u0628\u0628\u0629\u0629\u062a\u062a\u062a\u062a\u062b\u062b\u062b"),
  (0xfe9c, "\u062b\u062c\u062c\u062c\u062c\u062d\u062d\u062d\u062d\u062e\u062e\u062e\u062e\u062f"),
  (0xfeaa, "\u062f\u0630\u0630\u0631\u0631\u0632\u0632\u0633\u0633\u0633\u0633\u0634\u0634\u0634"),
  (0xfeb8, "\u0634\u0635\u0635\u0635\u0635\u0636\u0636\u0636\u0636\u0637\u0637\u0637\u0637\u0638"),
  (0xfec6, "\u0638\u0638\u0638\u0639\u0639\u0639\u0639\u063a\u063a\u063a\u063a\u0641\u0641\u0641"),
  (0xfed4, "\u0641\u0642\u0642\u0642\u0642\u0643\u0643\u0643\u0643\u0644\u0644\u0644\u0644\u0645"),
  (0xfee2, "\u0645\u0645\u0645\u0646\u0646\u0646\u0646\u0647\u0647\u0647\u0647\u0648\u0648\u0649"),
  (0xfef0, "\u0649\u064a\u064a\u064a\u064a"),
  (0xff5f, "⦅⦆.「」、・ヲァィゥェォャュョッ\u30fcアイウエオカキクケコサシスセソタチツテト"), (0xff8b, "ヒフヘホ"), (0xff94, "ヤユ"),
  (0xff9c, "ワン\u3099\u309a"), (0xffa1, "\u1100\u1101\u11aa\u1102\u11ac\u11ad\u1103\u1104\u1105"),
  (0xffb0, "\u111a\u1106\u1107\u1108\u1121"), (0xffda, "\u1173\u1174\u1175"), (0xffe0, "¢£¬"),
  (0xffe4, "¦¥₩"), (0xffe8, "│←↑→↓■○"), (0x10781, "\u02d0\u02d1æʙɓ"),
  (0x10787, "ʣꭦʥʤɖɗᶑɘɞʩɤɢɠʛħʜɧʄʪʫɬ𝼄ꞎɮ𝼅ʎ𝼆øɶɷqɺ𝼈ɽɾʀʨʦꭧʧʈⱱ"), (0x107b2, "ʏʡʢʘǀǁǂ𝼊𝼞"),
  (0x1d6a5, "ȷ"), (0x1d6b9, "θ"), (0x1d6c1, "∇"), (0x1d6d3, "σ"), (0x1d6db, "∂εθκφρπ"),
  (0x1d6f3, "θ"), (0x1d6fb, "∇"), (0x1d70d, "σ"), (0x1d715, "∂εθκφρπ"), (0x1d72d, "θ"),
  (0x1d735, "∇"), (0x1d747, "σ"), (0x1d74f, "∂εθκφρπ"), (0x1d767, "θ"), (0x1d76f, "∇"),
  (0x1d781, "σ"), (0x1d789, "∂ε"), (0x1d78c, "κφρπ"), (0x1d7a1, "θ"), (0x1d7a9, "∇"),
  (0x1d7bb, "σ"), (0x1d7c3, "∂εθκφ"), (0x1d7c9, "π"), (0x1d7cb, "ϝ"), (0x1e039, "клм"),
  (0x1e047, "ыэюꚉәіјөүӏ"), (0x1e05a, "клопс"), (0x1e065, "ъыґіѕџҫꙑұ"),
  (0x1ee00, "\u0627\u0628\u062c\u062f"),
  (0x1ee05, "\u0648\u0632\u062d\u0637\u064a\u0643\u0644\u0645\u0646\u0633\u0639\u0641\u0635\u0642"),
  (0x1ee13, "\u0631\u0634\u062a\u062b\u062e\u0630\u0636\u0638\u063a\u066e\u06ba\u06a1\u066f"),
  (0x1ee21, "\u0628\u062c"), (0x1ee24, "\u0647"), (0x1ee27, "\u062d"),
  (0x1ee29, "\u064a\u0643\u0644\u0645\u0646\u0633\u0639\u0641\u0635\u0642"),
  (0x1ee34, "\u0634\u062a\u062b\u062e"), (0x1ee39, "\u0636"), (0x1ee3b, "\u063a"),
  (0x1ee42, "\u062c"), (0x1ee47, "\u062d"), (0x1ee49, "\u064a"), (0x1ee4b, "\u0644"),
  (0x1ee4d, "\u0646\u0633\u0639"), (0x1ee51, "\u0635\u0642"), (0x1ee54, "\u0634"),
  (0x1ee57, "\u062e"), (0x1ee59, "\u0636"), (0x1ee5b, "\u063a"), (0x1ee5d, "\u06ba"),
  (0x1ee5f, "\u066f"), (0x1ee61, "\u0628\u062c"), (0x1ee64, "\u0647"),
  (0x1ee67, "\u062d\u0637\u064a\u0643"), (0x1ee6c, "\u0645\u0646\u0633\u0639\u0641\u0635\u0642"),
  (0x1ee74, "\u0634\u062a\u062b\u062e"), (0x1ee79, "\u0636\u0638\u063a\u066e"),
  (0x1ee7e, "\u06a1"), (0x1ee80, "\u0627\u0628\u062c\u062f\u0647\u0648\u0632\u062d\u0637\u064a"),
  (0x1ee8b, "\u0644\u0645\u0646\u0633\u0639\u0641\u0635\u0642\u0631\u0634\u062a\u062b\u062e\u0630"),
  (0x1ee99, "\u0636\u0638\u063a"), (0x1eea1, "\u0628\u062c\u062f"),
  (0x1eea5, "\u0648\u0632\u062d\u0637\u064a"),
  (0x1eeab, "\u0644\u0645\u0646\u0633\u0639\u0641\u0635\u0642\u0631\u0634\u062a\u062b\u062e\u0630"),
  (0x1eeb9, "\u0636\u0638\u063a"), (0x1f12b, "cr"), (0x1f202, "サ"),
  (0x1f210, "手字双デ二多解天交映無料前後再新初終生販声吹演投捕一三遊左中右指走打禁空合満有月申割営配"), (0x1f250, "得可"),
  (0x2f800, "丽丸乁𠄢你侮侻倂偺備僧像㒞𠘺免兔兤具𠔜㒹內再𠕋冗冤仌冬况𩇟凵刃㓟刻剆割剷㔕勇勉勤勺包匆北卉卑博即卽卿卿卿𠨬灰及叟𠭣叫叱吆咞吸呈周咢哶唐啓啣善善喙喫喳嗂圖嘆圗噑噴切壮城埴"),
  (0x2f854, "堍型堲報墬𡓤売壷夆多夢奢𡚨𡛪姬娛娧姘婦㛮㛼嬈嬾嬾𡧈寃寘寧寳𡬘寿将当尢㞁屠屮峀岍𡷤嵃𡷦嵮嵫嵼巡巢㠯巽帨帽幩㡢𢆃㡼庰庳庶廊𪎒廾𢌱𢌱舁弢弢㣇𣊸𦇚形彫㣣徚忍志忹悁㤺㤜悔𢛔惇慈慌"),
  (0x2f8a8, "慎慌慺憎憲憤憯懞懲懶成戛扝抱拔捐𢬌挽拼捨掃揤𢯱搢揅掩㨮摩摾撝摷㩬敏敬𣀊旣書晉㬙暑㬈㫤冒冕最暜肭䏙朗望朡杞杓𣏃㭉柺枅桒梅𣑭梎栟椔㮝楂榣槪檨𣚣櫛㰘次𣢧歔㱎歲殟殺殻𣪍𡴋𣫺汎𣲼"),
  (0x2f8fc, "沿泍汧洖派海流浩浸涅𣴞洴港湮㴳滋滇𣻑淹潮𣽞𣾎濆瀹瀞瀛㶖灊災灷炭𠔥煅𤉣熜𤎫爨爵牐𤘈犀犕𤜵𤠔獺王㺬玥㺸㺸瑇瑜瑱璅瓊㼛甤𤰶甾𤲒異𢆟瘐𤾡𤾸𥁄㿼䀈直𥃳𥃲𥄙𥄳眞真真睊䀹瞋䁆䂖𥐝硎碌"),
  (0x2f950, "磌䃣𥘦祖𥚚𥛅福秫䄯穀穊穏𥥼𥪧𥪧竮䈂𥮫篆築䈧𥲀糒䊠糨糣紀𥾆絣䌁緇縂繅䌴𦈨𦉇䍙𦋙罺𦌾羕翺者𦓚𦔣聠𦖨聰𣍟䏕育脃䐋脾媵𦞧𦞵𣎓𣎜舁舄辞䑫芑芋芝劳花芳芽苦𦬼若茝荣莭茣莽菧著荓菊菌菜"),
  (0x2f9a4, "𦰶𦵫𦳕䔫蓱蓳蔖𧏊蕤𦼬䕝䕡𦾱𧃒䕫虐虜虧虩蚩蚈蜎蛢蝹蜨蝫螆䗗蟡蠁䗹衠衣𧙧裗裞䘵裺㒻𧢮𧥦䚾䛇誠諭變豕𧲨貫賁贛起𧼯𠠄跋趼跰𠣞軔輸𨗒𨗭邔郱鄑𨜮鄛鈸鋗鋘鉼鏹鐕𨯺開䦕閷𨵷䧦雃嶲霣𩅅𩈚"),
  (0x2f9f8, "䩮䩶韠𩐊䪲𩒖頋頋頩𩖶飢䬳餩馧駂駾䯎𩬰鬒鱀鳽䳎䳭鵧𪃎䳸𪄅𪈎𪊑麻䵖黹黾鼅鼏鼖鼻𪘀")]

/-- Characters that stand for several, in the order of the former from the given one on,
with semicolons between them. -/
def words : List (Nat × String) := [
  (0xa8, " \u0308"), (0xaf, " \u0304"), (0xb4, " \u0301"), (0xb8, " \u0327"),
  (0xbc, "1⁄4;1⁄2;3⁄4"), (0x130, "i\u0307"), (0x132, "ij;ij"), (0x13f, "l·;l·"),
  (0x149, "\u02bcn"), (0x1c4, "dž;dž;dž;lj;lj;lj;nj;nj;nj"), (0x1f1, "dz;dz;dz"),
  (0x2d8, " \u0306; \u0307; \u030a; \u0328; \u0303; \u030b"), (0x344, "\u0308\u0301"),
  (0x37a, " ι"), (0x384, " \u0301; \u0308\u0301"), (0x587, "եւ"),
  (0x675, "\u0627\u0674;\u0648\u0674;\u06c7\u0674;\u064a\u0674"),
  (0x958, "क\u093c;ख\u093c;ग\u093c;ज\u093c;ड\u093c;ढ\u093c;फ\u093c;य\u093c"),
  (0x9dc, "ড\u09bc;ঢ\u09bc"), (0x9df, "য\u09bc"), (0xa33, "ਲ\u0a3c"), (0xa36, "ਸ\u0a3c"),
  (0xa59, "ਖ\u0a3c;ਗ\u0a3c;ਜ\u0a3c"), (0xa5e, "ਫ\u0a3c"), (0xb5c, "ଡ\u0b3c;ଢ\u0b3c"),
  (0xe33, "\u0e4dา"), (0xeb3, "\u0ecdາ"), (0xedc, "ຫນ;ຫມ"), (0xf43, "ག\u0fb7"),
  (0xf4d, "ཌ\u0fb7"), (0xf52, "ད\u0fb7"), (0xf57, "བ\u0fb7"), (0xf5c, "ཛ\u0fb7"),
  (0xf69, "ཀ\u0fb5"), (0xf73, "\u0f71\u0f72"),
  (0xf75, "\u0f71\u0f74;\u0fb2\u0f80;\u0fb2\u0f71\u0f80;\u0fb3\u0f80;\u0fb3\u0f71\u0f80"),
  (0xf81, "\u0f71\u0f80"), (0xf93, "\u0f92\u0fb7"), (0xf9d, "\u0f9c\u0fb7"),
  (0xfa2, "\u0fa1\u0fb7"), (0xfa7, "\u0fa6\u0fb7"), (0xfac, "\u0fab\u0fb7"),
  (0xfb9, "\u0f90\u0fb5"), (0x1e9a, "a\u02be"),
  (0x1f80, "ἀι;ἁι;ἂι;ἃι;ἄι;ἅι;ἆι;ἇι;ἀι;ἁι;ἂι;ἃι;ἄι;ἅι;ἆι;ἇι;ἠι;ἡι;ἢι;ἣι;ἤι;ἥι;ἦι;ἧι;ἠι;ἡι;ἢι;ἣι"),
  (0x1f9c, "ἤι;ἥι;ἦι;ἧι;ὠι;ὡι;ὢι;ὣι;ὤι;ὥι;ὦι;ὧι;ὠι;ὡι;ὢι;ὣι;ὤι;ὥι;ὦι;ὧι"), (0x1fb2, "ὰι;αι;άι"),
  (0x1fb7, "ᾶι"), (0x1fbc, "αι; \u0313"), (0x1fbf, " \u0313; \u0342; \u0308\u0342;ὴι;ηι;ήι"),
  (0x1fc7, "ῆι"), (0x1fcc, "ηι; \u0313\u0300; \u0313\u0301; \u0313\u0342"),
  (0x1fdd, " \u0314\u0300; \u0314\u0301; \u0314\u0342"), (0x1fed, " \u0308\u0300; \u0308\u0301"),
  (0x1ff2, "ὼι;ωι;ώι"), (0x1ff7, "ῶι"), (0x1ffc, "ωι; \u0301; \u0314"), (0x2017, " \u0333"),
  (0x2033, "′′;′′′"), (0x2036, "‵‵;‵‵‵"), (0x203c, "!!"), (0x203e, " \u0305"),
  (0x2047, "??;?!;!?"), (0x2057, "′′′′"), (0x20a8, "rs"), (0x2100, "a/c;a/s"), (0x2103, "°c"),
  (0x2105, "c/o;c/u"), (0x2109, "°f"), (0x2116, "no"), (0x2120, "sm;tel;tm"), (0x213b, "fax"),
  (0x2150, "1⁄7;1⁄9;1⁄10;1⁄3;2⁄3;1⁄5;2⁄5;3⁄5;4⁄5;1⁄6;5⁄6;1⁄8;3⁄8;5⁄8;7⁄8;1⁄"),
  (0x2161, "ii;iii;iv"), (0x2165, "vi;vii;viii;ix"), (0x216a, "xi;xii"), (0x2171, "ii;iii;iv"),
  (0x2175, "vi;vii;viii;ix"), (0x217a, "xi;xii"), (0x2189, "0⁄3"), (0x222c, "∫∫;∫∫∫"),
  (0x222f, "∮∮;∮∮∮"),
  (0x2469, "10;11;12;13;14;15;16;17;18;19;20;(1);(2);(3);(4);(5);(6);(7);(8);(9);(10);(11);(12)"),
  (0x2480, "(13);(14);(15);(16);(17);(18);(19);(20)"),
  (0x249c, "(a);(b);(c);(d);(e);(f);(g);(h);(i);(j);(k);(l);(m);(n);(o);(p);(q);(r);(s);(t);(u)"),
  (0x24b1, "(v);(w);(x);(y);(z)"), (0x2a0c, "∫∫∫∫"), (0x2a74, "::=;==;==="), (0x2adc, "⫝\u0338"),
  (0x309b, " \u3099; \u309a"), (0x309f, "より"), (0x30ff, "コト"),
  (0x3200, "(\u1100);(\u1102);(\u1103);(\u1105);(\u1106);(\u1107);(\u1109);(\u110b);(\u110c)"),
  (0x3209, "(\u110e);(\u110f);(\u1110);(\u1111);(\u1112);(가);(나);(다);(라);(마);(바);(사);(아);(자);(차)"),
  (0x3218, "(카);(타);(파);(하);(주);(오전);(오후)"),
  (0x3220, "(一);(二);(三);(四);(五);(六);(七);(八);(九);(十);(月);(火);(水);(木);(金);(土);(日);(株);(有);(社);(名)"),
  (0x3235, "(特);(財);(祝);(労);(代);(呼);(学);(監);(企);(資);(協);(祭);(休);(自);(至)"),
  (0x3250, "pte;21;22;23;24;25;26;27;28;29;30;31;32;33;34;35"), (0x327c, "참고;주의"),
  (0x32b1, "36;37;38;39;40;41;42;43;44;45;46;47;48;49;50;1月;2月;3月;4月;5月;6月;7月;8月;9月;10月;11月;12月"),
  (0x32cc, "hg;erg;ev;ltd"),
  (0x32ff, "令和;アパ\u30fcト;アルファ;アンペア;ア\u30fcル;イニング;インチ;ウォン;エスク\u30fcド;エ\u30fcカ\u30fc;オンス;オ\u30fcム"),
  (0x330b, "カイリ;カラット;カロリ\u30fc;ガロン;ガンマ;ギガ;ギニ\u30fc;キュリ\u30fc;ギルダ\u30fc;キロ;キログラム;キロメ\u30fcトル"),
  (0x3317, "キロワット;グラム;グラムトン;クルゼイロ;クロ\u30fcネ;ケ\u30fcス;コルナ;コ\u30fcポ;サイクル;サンチ\u30fcム;シリング;センチ;セント"),
  (0x3324, "ダ\u30fcス;デシ;ドル;トン;ナノ;ノット;ハイツ;パ\u30fcセント;パ\u30fcツ;バ\u30fcレル;ピアストル;ピクル;ピコ;ビル;ファラッド"),
  (0x3333, "フィ\u30fcト;ブッシェル;フラン;ヘクタ\u30fcル;ペソ;ペニヒ;ヘルツ;ペンス;ペ\u30fcジ;ベ\u30fcタ;ポイント;ボルト;ホン;ポンド"),
  (0x3341, "ホ\u30fcル;ホ\u30fcン;マイクロ;マイル;マッハ;マルク;マンション;ミクロン;ミリ;ミリバ\u30fcル;メガ;メガトン;メ\u30fcトル"),
  (0x334e, "ヤ\u30fcド;ヤ\u30fcル;ユアン;リットル;リラ;ルピ\u30fc;ル\u30fcブル;レム;レントゲン;ワット;0点;1点;2点;3点;4点;5点;6点"),
  (0x335f, "7点;8点;9点;10点;11点;12点;13点;14点;15点;16点;17点;18点;19点;20点;21点;22点;23点;24点;hpa;da;au;bar"),
  (0x3375, "ov;pc;dm;dm2;dm3;iu;平成;昭和;大正;明治;株式会社;pa;na;μa;ma;ka;kb;mb;gb;cal;kcal;pf;nf;μf;μg;mg"),
  (0x338f, "kg;hz;khz;mhz;ghz;thz;μl;ml;dl;kl;fm;nm;μm;mm;cm;km;mm2;cm2;m2;km2;mm3;cm3;m3;km3"),
  (0x33a7, "m∕s;m∕s2;pa;kpa;mpa;gpa;rad;rad∕s;rad∕s2;ps;ns;μs;ms;pv;nv;μv;mv;kv;mv;pw;nw;μw;mw"),
  (0x33be, "kw;mw;kω;mω"), (0x33c3, "bq;cc;cd;c∕kg"),
  (0x33c8, "db;gy;ha;hp;in;kk;km;kt;lm;ln;log;lx;mb;mil;mol;ph"),
  (0x33d9, "ppm;pr;sr;sv;wb;v∕m;a∕m;1日;2日;3日;4日;5日;6日;7日;8日;9日;10日;11日;12日;13日;14日;15日;16日;17日"),
  (0x33f1, "18日;19日;20日;21日;22日;23日;24日;25日;26日;27日;28日;29日;30日;31日;gal"),
  (0xfb00, "ff;fi;fl;ffi;ffl;st;st"), (0xfb13, "մն;մե;մի;վն;մխ"), (0xfb1d, "\u05d9\u05b4"),
  (0xfb1f, "\u05f2\u05b7"),
  (0xfb2a, "\u05e9\u05c1;\u05e9\u05c2;\u05e9\u05bc\u05c1;\u05e9\u05bc\u05c2;\u05d0\u05b7"),
  (0xfb2f, "\u05d0\u05b8;\u05d0\u05bc;\u05d1\u05bc;\u05d2\u05bc;\u05d3\u05bc;\u05d4\u05bc"),
  (0xfb35, "\u05d5\u05bc;\u05d6\u05bc"),
  (0xfb38, "\u05d8\u05bc;\u05d9\u05bc;\u05da\u05bc;\u05db\u05bc;\u05dc\u05bc"),
  (0xfb3e, "\u05de\u05bc"), (0xfb40, "\u05e0\u05bc;\u05e1\u05bc"),
  (0xfb43, "\u05e3\u05bc;\u05e4\u05bc"),
  (0xfb46, "\u05e6\u05bc;\u05e7\u05bc;\u05e8\u05bc;\u05e9\u05bc;\u05ea\u05bc;\u05d5\u05b9"),
  (0xfb4c, "\u05d1\u05bf;\u05db\u05bf;\u05e4\u05bf;\u05d0\u05dc"), (0xfbdd, "\u06c7\u0674"),
  (0xfbea, "\u0626\u0627;\u0626\u0627;\u0626\u06d5;\u0626\u06d5;\u0626\u0648;\u0626\u0648"),
  (0xfbf0, "\u0626\u06c7;\u0626\u06c7;\u0626\u06c6;\u0626\u06c6;\u0626\u06c8;\u0626\u06c8"),
  (0xfbf6, "\u0626\u06d0;\u0626\u06d0;\u0626\u06d0;\u0626\u0649;\u0626\u0649;\u0626\u0649"),
  (0xfc00, "\u0626\u062c;\u0626\u062d;\u0626\u0645;\u0626\u0649;\u0626\u064a;\u0628\u062c"),
  (0xfc06, "\u0628\u062d;\u0628\u062e;\u0628\u0645;\u0628\u0649;\u0628\u064a;\u062a\u062c"),
  (0xfc0c, "\u062a\u062d;\u062a\u062e;\u062a\u0645;\u062a\u0649;\u062a\u064a;\u062b\u062c"),
  (0xfc12, "\u062b\u0645;\u062b\u0649;\u062b\u064a;\u062c\u062d;\u062c\u0645;\u062d\u062c"),
  (0xfc18, "\u062d\u0645;\u062e\u062c;\u062e\u062d;\u062e\u0645;\u0633\u062c;\u0633\u062d"),
  (0xfc1e, "\u0633\u062e;\u0633\u0645;\u0635\u062d;\u0635\u0645;\u0636\u062c;\u0636\u062d"),
  (0xfc24, "\u0636\u062e;\u0636\u0645;\u0637\u062d;\u0637\u0645;\u0638\u0645;\u0639\u062c"),
  (0xfc2a, "\u0639\u0645;\u063a\u062c;\u063a\u0645;\u0641\u062c;\u0641\u062d;\u0641\u062e"),
  (0xfc30, "\u0641\u0645;\u0641\u0649;\u0641\u064a;\u0642\u062d;\u0642\u0645;\u0642\u0649"),
  (0xfc36, "\u0642\u064a;\u0643\u0627;\u0643\u062c;\u0643\u062d;\u0643\u062e;\u0643\u0644"),
  (0xfc3c, "\u0643\u0645;\u0643\u0649;\u0643\u064a;\u0644\u062c;\u0644\u062d;\u0644\u062e"),
  (0xfc42, "\u0644\u0645;\u0644\u0649;\u0644\u064a;\u0645\u062c;\u0645\u062d;\u0645\u062e"),
  (0xfc48, "\u0645\u0645;\u0645\u0649;\u0645\u064a;\u0646\u062c;\u0646\u062d;\u0646\u062e"),
  (0xfc4e, "\u0646\u0645;\u0646\u0649;\u0646\u064a;\u0647\u062c;\u0647\u0645;\u0647\u0649"),
  (0xfc54, "\u0647\u064a;\u064a\u062c;\u064a\u062d;\u064a\u062e;\u064a\u0645;\u064a\u0649"),
  (0xfc5a, "\u064a\u064a;\u0630\u0670;\u0631\u0670;\u0649\u0670; \u064c\u0651; \u064d\u0651"),
  (0xfc60, " \u064e\u0651; \u064f\u0651; \u0650\u0651; \u0651\u0670;\u0626\u0631;\u0626\u0632"),
  (0xfc66, "\u0626\u0645;\u0626\u0646;\u0626\u0649;\u0626\u064a;\u0628\u0631;\u0628\u0632"),
  (0xfc6c, "\u0628\u0645;\u0628\u0646;\u0628\u0649;\u0628\u064a;\u062a\u0631;\u062a\u0632"),
  (0xfc72, "\u062a\u0645;\u062a\u0646;\u062a\u0649;\u062a\u064a;\u062b\u0631;\u062b\u0632"),
  (0xfc78, "\u062b\u0645;\u062b\u0646;\u062b\u0649;\u062b\u064a;\u0641\u0649;\u0641\u064a"),
  (0xfc7e, "\u0642\u0649;\u0642\u064a;\u0643\u0627;\u0643\u0644;\u0643\u0645;\u0643\u0649"),
  (0xfc84, "\u0643\u064a;\u0644\u0645;\u0644\u0649;\u0644\u064a;\u0645\u0627;\u0645\u0645"),
  (0xfc8a, "\u0646\u0631;\u0646\u0632;\u0646\u0645;\u0646\u0646;\u0646\u0649;\u0646\u064a"),
  (0xfc90, "\u0649\u0670;\u064a\u0631;\u064a\u0632;\u064a\u0645;\u064a\u0646;\u064a\u0649"),
  (0xfc96, "\u064a\u064a;\u0626\u062c;\u0626\u062d;\u0626\u062e;\u0626\u0645;\u0626\u0647"),
  (0xfc9c, "\u0628\u062c;\u0628\u062d;\u0628\u062e;\u0628\u0645;\u0628\u0647;\u062a\u062c"),
  (0xfca2, "\u062a\u062d;\u062a\u062e;\u062a\u0645;\u062a\u0647;\u062b\u0645;\u062c\u062d"),
  (0xfca8, "\u062c\u0645;\u062d\u062c;\u062d\u0645;\u062e\u062c;\u062e\u0645;\u0633\u062c"),
  (0xfcae, "\u0633\u062d;\u0633\u062e;\u0633\u0645;\u0635\u062d;\u0635\u062e;\u0635\u0645"),
  (0xfcb4, "\u0636\u062c;\u0636\u062d;\u0636\u062e;\u0636\u0645;\u0637\u062d;\u0638\u0645"),
  (0xfcba, "\u0639\u062c;\u0639\u0645;\u063a\u062c;\u063a\u0645;\u0641\u062c;\u0641\u062d"),
  (0xfcc0, "\u0641\u062e;\u0641\u0645;\u0642\u062d;\u0642\u0645;\u0643\u062c;\u0643\u062d"),
  (0xfcc6, "\u0643\u062e;\u0643\u0644;\u0643\u0645;\u0644\u062c;\u0644\u062d;\u0644\u062e"),
  (0xfccc, "\u0644\u0645;\u0644\u0647;\u0645\u062c;\u0645\u062d;\u0645\u062e;\u0645\u0645"),
  (0xfcd2, "\u0646\u062c;\u0646\u062d;\u0646\u062e;\u0646\u0645;\u0646\u0647;\u0647\u062c"),
  (0xfcd8, "\u0647\u0645;\u0647\u0670;\u064a\u062c;\u064a\u062d;\u064a\u062e;\u064a\u0645"),
  (0xfcde, "\u064a\u0647;\u0626\u0645;\u0626\u0647;\u0628\u0645;\u0628\u0647;\u062a\u0645"),
  (0xfce4, "\u062a\u0647;\u062b\u0645;\u062b\u0647;\u0633\u0645;\u0633\u0647;\u0634\u0645"),
  (0xfcea, "\u0634\u0647;\u0643\u0644;\u0643\u0645;\u0644\u0645;\u0646\u0645;\u0646\u0647"),
  (0xfcf0, "\u064a\u0645;\u064a\u0647;\u0640\u064e\u0651;\u0640\u064f\u0651;\u0640\u0650\u0651"),
  (0xfcf5, "\u0637\u0649;\u0637\u064a;\u0639\u0649;\u0639\u064a;\u063a\u0649;\u063a\u064a"),
  (0xfcfb, "\u0633\u0649;\u0633\u064a;\u0634\u0649;\u0634\u064a;\u062d\u0649;\u062d\u064a"),
  (0xfd01, "\u062c\u0649;\u062c\u064a;\u062e\u0649;\u062e\u064a;\u0635\u0649;\u0635\u064a"),
  (0xfd07, "\u0636\u0649;\u0636\u064a;\u0634\u062c;\u0634\u062d;\u0634\u062e;\u0634\u0645"),
  (0xfd0d, "\u0634\u0631;\u0633\u0631;\u0635\u0631;\u0636\u0631;\u0637\u0649;\u0637\u064a"),
  (0xfd13, "\u0639\u0649;\u0639\u064a;\u063a\u0649;\u063a\u064a;\u0633\u0649;\u0633\u064a"),
  (0xfd19, "\u0634\u0649;\u0634\u064a;\u062d\u0649;\u062d\u064a;\u062c\u0649;\u062c\u064a"),
  (0xfd1f, "\u062e\u0649;\u062e\u064a;\u0635\u0649;\u0635\u064a;\u0636\u0649;\u0636\u064a"),
  (0xfd25, "\u0634\u062c;\u0634\u062d;\u0634\u062e;\u0634\u0645;\u0634\u0631;\u0633\u0631"),
  (0xfd2b, "\u0635\u0631;\u0636\u0631;\u0634\u062c;\u0634\u062d;\u0634\u062e;\u0634\u0645"),
  (0xfd31, "\u0633\u0647;\u0634\u0647;\u0637\u0645;\u0633\u062c;\u0633\u062d;\u0633\u062e"),
  (0xfd37, "\u0634\u062c;\u0634\u062d;\u0634\u062e;\u0637\u0645;\u0638\u0645;\u0627\u064b"),
  (0xfd3d, "\u0627\u064b"),
  (0xfd50, "\u062a\u062c\u0645;\u062a\u062d\u062c;\u062a\u062d\u062c;\u062a\u062d\u0645"),
  (0xfd54, "\u062a\u062e\u0645;\u062a\u0645\u062c;\u062a\u0645\u062d;\u062a\u0645\u062e"),
  (0xfd58, "\u062c\u0645\u062d;\u062c\u0645\u062d;\u062d\u0645\u064a;\u062d\u0645\u0649"),
  (0xfd5c, "\u0633\u062d\u062c;\u0633\u062c\u062d;\u0633\u062c\u0649;\u0633\u0645\u062d"),
  (0xfd60, "\u0633\u0645\u062d;\u0633\u0645\u062c;\u0633\u0645\u0645;\u0633\u0645\u0645"),
  (0xfd64, "\u0635\u062d\u062d;\u0635\u062d\u062d;\u0635\u0645\u0645;\u0634\u062d\u0645"),
  (0xfd68, "\u0634\u062d\u0645;\u0634\u062c\u064a;\u0634\u0645\u062e;\u0634\u0645\u062e"),
  (0xfd6c, "\u0634\u0645\u0645;\u0634\u0645\u0645;\u0636\u062d\u0649;\u0636\u062e\u0645"),
  (0xfd70, "\u0636\u062e\u0645;\u0637\u0645\u062d;\u0637\u0645\u062d;\u0637\u0645\u0645"),
  (0xfd74, "\u0637\u0645\u064a;\u0639\u062c\u0645;\u0639\u0645\u0645;\u0639\u0645\u0645"),
  (0xfd78, "\u0639\u0645\u0649;\u063a\u0645\u0645;\u063a\u0645\u064a;\u063a\u0645\u0649"),
  (0xfd7c, "\u0641\u062e\u0645;\u0641\u062e\u0645;\u0642\u0645\u062d;\u0642\u0645\u0645"),
  (0xfd80, "\u0644\u062d\u0645;\u0644\u062d\u064a;\u0644\u062d\u0649;\u0644\u062c\u062c"),
  (0xfd84, "\u0644\u062c\u062c;\u0644\u062e\u0645;\u0644\u062e\u0645;\u0644\u0645\u062d"),
  (0xfd88, "\u0644\u0645\u062d;\u0645\u062d\u062c;\u0645\u062d\u0645;\u0645\u062d\u064a"),
  (0xfd8c, "\u0645\u062c\u062d;\u0645\u062c\u0645;\u0645\u062e\u062c;\u0645\u062e\u0645"),
  (0xfd92, "\u0645\u062c\u062e;\u0647\u0645\u062c;\u0647\u0645\u0645;\u0646\u062d\u0645"),
  (0xfd96, "\u0646\u062d\u0649;\u0646\u062c\u0645;\u0646\u062c\u0645;\u0646\u062c\u0649"),
  (0xfd9a, "\u0646\u0645\u064a;\u0646\u0645\u0649;\u064a\u0645\u0645;\u064a\u0645\u0645"),
  (0xfd9e, "\u0628\u062e\u064a;\u062a\u062c\u064a;\u062a\u062c\u0649;\u062a\u062e\u064a"),
  (0xfda2, "\u062a\u062e\u0649;\u062a\u0645\u064a;\u062a\u0645\u0649;\u062c\u0645\u064a"),
  (0xfda6, "\u062c\u062d\u0649;\u062c\u0645\u0649;\u0633\u062e\u0649;\u0635\u062d\u064a"),
  (0xfdaa, "\u0634\u062d\u064a;\u0636\u062d\u064a;\u0644\u062c\u064a;\u0644\u0645\u064a"),
  (0xfdae, "\u064a\u062d\u064a;\u064a\u062c\u064a;\u064a\u0645\u064a;\u0645\u0645\u064a"),
  (0xfdb2, "\u0642\u0645\u064a;\u0646\u062d\u064a;\u0642\u0645\u062d;\u0644\u062d\u0645"),
  (0xfdb6, "\u0639\u0645\u064a;\u0643\u0645\u064a;\u0646\u062c\u062d;\u0645\u062e\u064a"),
  (0xfdba, "\u0644\u062c\u0645;\u0643\u0645\u0645;\u0644\u062c\u0645;\u0646\u062c\u062d"),
  (0xfdbe, "\u062c\u062d\u064a;\u062d\u062c\u064a;\u0645\u062c\u064a;\u0641\u0645\u064a"),
  (0xfdc2, "\u0628\u062d\u064a;\u0643\u0645\u0645;\u0639\u062c\u0645;\u0635\u0645\u0645"),
  (0xfdc6, "\u0633\u062e\u064a;\u0646\u062c\u064a"),
  (0xfdf0, "\u0635\u0644\u06d2;\u0642\u0644\u06d2;\u0627\u0644\u0644\u0647"),
  (0xfdf3, "\u0627\u0643\u0628\u0631;\u0645\u062d\u0645\u062f;\u0635\u0644\u0639\u0645"),
  (0xfdf6, "\u0631\u0633\u0648\u0644;\u0639\u0644\u064a\u0647;\u0648\u0633\u0644\u0645"),
  (0xfdf9, "\u0635\u0644\u0649"),
  (0xfdfa,
    "\u0635\u0644\u0649 \u0627\u0644\u0644\u0647 " ++
      "\u0639\u0644\u064a\u0647 \u0648\u0633\u0644\u0645"),
  (0xfdfb, "\u062c\u0644 \u062c\u0644\u0627\u0644\u0647;\u0631\u06cc\u0627\u0644"),
  (0xfe49, " \u0305; \u0305; \u0305; \u0305"), (0xfe70, " \u064b;\u0640\u064b; \u064c"),
  (0xfe74, " \u064d"),
  (0xfe76, " \u064e;\u0640\u064e; \u064f;\u0640\u064f; \u0650;\u0640\u0650; \u0651;\u0640\u0651"),
  (0xfe7e, " \u0652;\u0640\u0652"),
  (0xfef5, "\u0644\u0622;\u0644\u0622;\u0644\u0623;\u0644\u0623;\u0644\u0625;\u0644\u0625"),
  (0xfefb, "\u0644\u0627;\u0644\u0627"), (0xffe3, " \u0304"),
  (0x1d15e, "𝅗𝅥;𝅘𝅥;𝅘𝅥𝅮;𝅘𝅥𝅯;𝅘𝅥𝅰;𝅘𝅥𝅱;𝅘𝅥𝅲"), (0x1d1bb, "𝆹𝅥;𝆺𝅥;𝆹𝅥𝅮;𝆺𝅥𝅮;𝆹𝅥𝅯;𝆺𝅥𝅯"),
  (0x1f101, "0,;1,;2,;3,;4,;5,;6,;7,;8,;9,"),
  (0x1f110, "(a);(b);(c);(d);(e);(f);(g);(h);(i);(j);(k);(l);(m);(n);(o);(p);(q);(r);(s);(t);(u)"),
  (0x1f125, "(v);(w);(x);(y);(z);〔s〕"), (0x1f12d, "cd;wz"), (0x1f14a, "hv;mv;sd;ss;ppv;wc"),
  (0x1f16a, "mc;md;mr"), (0x1f190, "dj"), (0x1f200, "ほか;ココ"),
  (0x1f240, "〔本〕;〔三〕;〔二〕;〔安〕;〔点〕;〔打〕;〔盗〕;〔勝〕;〔敗〕")]

def letterLists : List (Nat × List Char) := letters.map fun e => (e.1, e.2.toList)

def wordLists : List (Nat × List (List Char)) :=
  words.map fun e => (e.1, segments ';' e.2.toList)

def item? {α : Type} (table : List (Nat × List α)) (n : Nat) : Option α :=
  table.findSome? fun e => if e.1 ≤ n then e.2[n - e.1]? else none

/-- Whether the standard gives a character a meaning that names can hold. -/
def isKnown (c : Char) : Bool :=
  recent.contains c
    || !(refused.contains c || GeneralCategory.unassignedMembers.contains c)

def text? (c : Char) : Option (List Char) :=
  let n := c.toNat
  if n < 0x80 then some [c.toLower]
  else if ignored.contains c then some []
  else if !isKnown c then none
  else
    match shifts.find? fun f => f.2.contains c with
    | some f => some [Char.ofNat ((n : Int) + f.1).toNat]
    | none =>
      match item? letterLists n, item? wordLists n with
      | some d, _ => some [d]
      | none, some ds => some ds
      | none, none => some [c]

def isPlain (c : Char) : Bool := text? c == some [c]

end NameSubstitution
end Verdict
