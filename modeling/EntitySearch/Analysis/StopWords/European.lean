/-!
# European stop words

Words too frequent to be searched for in English, French, German, Dutch,
Italian, Danish, Finnish, Hungarian, Norwegian, Portuguese, Russian, Spanish and
Swedish, in one ascending list.
-/

namespace EntitySearch.Analysis

/-- Stop words of thirteen European languages. -/
def europeanStopWords : List String :=
  [
    "a", "aan", "abban", "abbia", "abbiamo", "abbiano", "abbiate", "aber", "ad", "af",
    "agl", "agli", "ahhoz", "ahogy", "ahol", "ai", "aie", "aient", "aies", "ait", "aki",
    "akik", "akkor", "al", "alatt", "algo", "algunas", "algunos", "all", "alla", "alle",
    "allem", "allen", "aller", "alles", "allo", "allt", "als", "also", "alt", "altijd",
    "am", "amely", "amelyek", "amelyekben", "amelyeket", "amelyet", "amelynek", "ami",
    "amikor", "amit", "amolyan", "amíg", "an", "anche", "and", "anden", "ander", "andere",
    "anderem", "anderen", "anderer", "anderes", "anderm", "andern", "anderr", "anders",
    "annak", "ante", "antes", "ao", "aos", "aquela", "aquelas", "aquele", "aqueles",
    "aquilo", "are", "arra", "arról", "as", "at", "att", "até", "au", "auch", "auf",
    "aurai", "auraient", "aurais", "aurait", "aurez", "auriez", "aurions", "aurons",
    "auront", "aus", "aux", "av", "avaient", "avais", "avait", "avec", "avemmo", "avendo",
    "avesse", "avessero", "avessi", "avessimo", "aveste", "avesti", "avete", "aveva",
    "avevamo", "avevano", "avevate", "avevi", "avevo", "avez", "aviez", "avons", "avrai",
    "avranno", "avrebbe", "avrebbero", "avrei", "avremmo", "avremo", "avreste", "avresti",
    "avrete", "avrà", "avrò", "avuta", "avute", "avuti", "avuto", "ayant", "ayez", "ayons",
    "az", "azok", "azon", "azonban", "azt", "aztán", "azután", "azzal", "azért", "bare",
    "be", "begge", "bei", "belül", "ben", "benne", "bij", "bin", "bis", "bist", "ble",
    "blei", "blev", "bli", "blir", "blitt", "blive", "bliver", "blivit", "but", "by", "bár",
    "både", "båe", "c", "ce", "ceci", "cela", "celà", "ces", "cet", "cette", "che", "chi",
    "ci", "cikk", "cikkek", "cikkeket", "coi", "col", "com", "come", "como", "con",
    "contra", "contro", "csak", "cual", "cuando", "cui", "d", "da", "daar", "dagl", "dagli",
    "dai", "dal", "dall", "dalla", "dalle", "dallo", "damit", "dan", "dann", "dans", "das",
    "dasselbe", "dat", "dazu", "daß", "de", "deg", "degl", "degli", "dei", "deim", "dein",
    "deine", "deinem", "deinen", "deiner", "deines", "deira", "deires", "del", "dela",
    "delas", "dele", "deles", "dell", "della", "delle", "dello", "dem", "demselben", "den",
    "denn", "denna", "denne", "denselben", "depois", "der", "deras", "dere", "derer",
    "deres", "derselbe", "derselben", "des", "desde", "dess", "dessa", "desselben",
    "dessen", "det", "detta", "dette", "deze", "di", "dich", "die", "dies", "diese",
    "dieselbe", "dieselben", "diesem", "diesen", "dieser", "dieses", "dig", "din", "dina",
    "dir", "disse", "dit", "ditt", "do", "doch", "doen", "dog", "donde", "door", "dort",
    "dos", "dov", "dove", "du", "durante", "durch", "dus", "dykk", "dykkar", "där", "då",
    "e", "ebbe", "ebben", "ebbero", "ebbi", "ed", "eddig", "een", "eens", "efter", "eg",
    "egy", "egyes", "egyetlen", "egyik", "egyre", "egyéb", "egész", "ehhez", "ei", "ein",
    "eine", "einem", "einen", "einer", "eines", "einig", "einige", "einigem", "einigen",
    "einiger", "einiges", "einmal", "eit", "eitt", "eivät", "ej", "ekkor", "el", "ela",
    "elas", "ele", "eles", "ella", "ellas", "elle", "ellen", "eller", "elles", "ellos",
    "első", "elég", "elő", "először", "előtt", "em", "emilyen", "emme", "en", "end", "enn",
    "ennek", "entre", "er", "era", "erais", "eram", "eran", "erano", "eras", "eravamo",
    "eravate", "eres", "eri", "ero", "erre", "ert", "es", "esa", "esas", "ese", "eso",
    "esos", "essa", "essas", "esse", "essendo", "esses", "esta", "estaba", "estabais",
    "estaban", "estabas", "estad", "estada", "estadas", "estado", "estados", "estamos",
    "estando", "estar", "estaremos", "estará", "estarán", "estarás", "estaré", "estaréis",
    "estaría", "estaríais", "estaríamos", "estarían", "estarías", "estas", "estava",
    "estavam", "este", "esteja", "estejam", "estejamos", "estemos", "estes", "esteve",
    "estive", "estivemos", "estiver", "estivera", "estiveram", "estiverem", "estivermos",
    "estivesse", "estivessem", "estivéramos", "estivéssemos", "esto", "estos", "estou",
    "estoy", "estuve", "estuviera", "estuvierais", "estuvieran", "estuvieras", "estuvieron",
    "estuviese", "estuvieseis", "estuviesen", "estuvieses", "estuvimos", "estuviste",
    "estuvisteis", "estuviéramos", "estuviésemos", "estuvo", "está", "estábamos", "estáis",
    "están", "estás", "estávamos", "estão", "esté", "estéis", "estén", "estés", "et", "ett",
    "ette", "etter", "että", "etwas", "eu", "euch", "eue", "euer", "eues", "eure", "eurem",
    "euren", "eurent", "eurer", "eures", "eus", "eusse", "eussent", "eusses", "eussiez",
    "eussions", "eut", "eux", "ez", "ezek", "ezen", "ezt", "ezzel", "ezért", "eûmes", "eût",
    "eûtes", "faccia", "facciamo", "facciano", "facciate", "faccio", "facemmo", "facendo",
    "facesse", "facessero", "facessi", "facessimo", "faceste", "facesti", "faceva",
    "facevamo", "facevano", "facevate", "facevi", "facevo", "fai", "fanno", "farai",
    "faranno", "farebbe", "farebbero", "farei", "faremmo", "faremo", "fareste", "faresti",
    "farete", "farà", "farò", "fece", "fecero", "feci", "fel", "felé", "foi", "fomos",
    "for", "fora", "foram", "fordi", "forem", "formos", "fosse", "fossem", "fossero",
    "fossi", "fossimo", "foste", "fosti", "fra", "från", "fu", "fue", "fuera", "fuerais",
    "fueran", "fueras", "fueron", "fuese", "fueseis", "fuesen", "fueses", "fui", "fuimos",
    "fuiste", "fuisteis", "fummo", "furent", "furono", "fus", "fusse", "fussent", "fusses",
    "fussiez", "fussions", "fut", "fuéramos", "fuésemos", "fôramos", "fôssemos", "för",
    "før", "fûmes", "fûtes", "für", "ge", "geen", "gegen", "geweest", "gewesen", "gli",
    "ha", "haar", "hab", "habe", "haben", "habida", "habidas", "habido", "habidos",
    "habiendo", "habremos", "habrá", "habrán", "habrás", "habré", "habréis", "habría",
    "habríais", "habríamos", "habrían", "habrías", "habéis", "había", "habíais", "habíamos",
    "habían", "habías", "had", "hadde", "hade", "hai", "haja", "hajam", "hajamos", "ham",
    "han", "hanem", "hanno", "hans", "har", "has", "hasta", "hat", "hatte", "hatten",
    "havde", "have", "havemos", "hay", "haya", "hayamos", "hayan", "hayas", "hayáis", "he",
    "heb", "hebben", "heeft", "hei", "heidän", "heidät", "heihin", "heille", "heillä",
    "heiltä", "heissä", "heistä", "heitä", "hem", "hemos", "hende", "hendes", "hennar",
    "henne", "hennes", "her", "het", "hier", "hij", "hin", "hinter", "hiszen", "hjå", "ho",
    "hoe", "hogy", "hogyan", "hon", "honom", "hos", "hoss", "hossen", "houve", "houvemos",
    "houver", "houvera", "houveram", "houverei", "houverem", "houveremos", "houveria",
    "houveriam", "houvermos", "houverá", "houverão", "houveríamos", "houvesse", "houvessem",
    "houvéramos", "houvéssemos", "hube", "hubiera", "hubierais", "hubieran", "hubieras",
    "hubieron", "hubiese", "hubieseis", "hubiesen", "hubieses", "hubimos", "hubiste",
    "hubisteis", "hubiéramos", "hubiésemos", "hubo", "hun", "hur", "hva", "hvad", "hvem",
    "hver", "hvilke", "hvilken", "hvis", "hvor", "hvordan", "hvorfor", "há", "hão", "hän",
    "häneen", "hänelle", "hänellä", "häneltä", "hänen", "hänessä", "hänestä", "hänet",
    "häntä", "här", "i", "ich", "ici", "icke", "iemand", "iets", "if", "igen", "ihm", "ihn",
    "ihnen", "ihr", "ihre", "ihrem", "ihren", "ihrer", "ihres", "ik", "ikke", "ikkje", "il",
    "ill", "ill.", "illetve", "ils", "ilyen", "ilyenkor", "im", "in", "ind", "indem",
    "ingen", "ingi", "inkje", "inn", "inni", "inom", "ins", "inte", "into", "io", "is",
    "ismét", "ison", "isso", "ist", "isto", "it", "itse", "itt", "j", "ja", "jag", "je",
    "jede", "jedem", "jeden", "jeder", "jedes", "jeg", "jene", "jenem", "jenen", "jener",
    "jenes", "jer", "jetzt", "jo", "jobban", "johon", "joiden", "joihin", "joiksi",
    "joilla", "joille", "joilta", "joina", "joissa", "joista", "joita", "joka", "joksi",
    "jolla", "jolle", "jolta", "jona", "jonka", "jos", "jossa", "josta", "jota", "jotka",
    "ju", "já", "jó", "jól", "kan", "kann", "kanssa", "keiden", "keihin", "keiksi",
    "keille", "keillä", "keiltä", "kein", "keine", "keinem", "keinen", "keiner", "keines",
    "keinä", "keissä", "keistä", "keitä", "kell", "kellett", "keneen", "keneksi", "kenelle",
    "kenellä", "keneltä", "kenen", "kenenä", "kenessä", "kenestä", "kenet", "keressünk",
    "keresztül", "ketkä", "ketä", "ki", "kom", "kon", "korleis", "korso", "koska", "kuin",
    "kuka", "kun", "kunde", "kunne", "kunnen", "kva", "kvar", "kvarhelst", "kven", "kvi",
    "kvifor", "kívül", "können", "könnte", "között", "közül", "l", "la", "las", "le",
    "legalább", "legyen", "lehet", "lehetett", "lei", "lenne", "lenni", "les", "lesz",
    "lett", "leur", "leurs", "lhe", "lhes", "li", "lo", "loro", "los", "lui", "m", "ma",
    "maar", "machen", "maga", "magát", "mais", "majd", "man", "manche", "manchem",
    "manchen", "mancher", "manches", "mange", "mas", "me", "med", "medan", "meer", "meg",
    "meget", "meidän", "meidät", "meihin", "meille", "meillä", "meiltä", "mein", "meine",
    "meinem", "meinen", "meiner", "meines", "meissä", "meistä", "meitä", "mellan",
    "mellett", "mellom", "mely", "melyek", "men", "mert", "mes", "mesmo", "met", "meu",
    "meus", "mi", "mia", "mich", "mie", "miei", "mig", "mihin", "mij", "mijn", "mikor",
    "miksi", "mikä", "mille", "millä", "miltä", "milyen", "min", "mina", "minden",
    "mindenki", "mindent", "mindig", "mine", "minha", "minhas", "minkä", "mint", "mintha",
    "minua", "minulla", "minulle", "minulta", "minun", "minussa", "minusta", "minut",
    "minuun", "minä", "mio", "mir", "mis", "missä", "mistä", "mit", "mitkä", "mitt", "mitä",
    "mivel", "miért", "mod", "moet", "moi", "mon", "most", "mot", "mucho", "muchos",
    "muito", "mukaan", "muss", "musste", "mutta", "muy", "mycket", "mykje", "már", "más",
    "másik", "még", "même", "mí", "mía", "mías", "míg", "mío", "míos", "n", "na", "naar",
    "nach", "nada", "nagy", "nagyobb", "nagyon", "nas", "ne", "ned", "negl", "negli", "nei",
    "nekem", "neki", "nel", "nell", "nella", "nelle", "nello", "nem", "ni", "nicht",
    "nichts", "niet", "niets", "niiden", "niihin", "niiksi", "niille", "niillä", "niiltä",
    "niin", "niinä", "niissä", "niistä", "niitä", "nincs", "no", "noch", "noe", "noen",
    "nog", "noget", "nogle", "noi", "noiden", "noihin", "noiksi", "noilla", "noille",
    "noilta", "noin", "noina", "noissa", "noista", "noita", "noka", "noko", "nokon",
    "nokor", "nokre", "non", "nos", "nosotras", "nosotros", "nossa", "nossas", "nosso",
    "nossos", "nostra", "nostre", "nostri", "nostro", "not", "notre", "nous", "nu",
    "nuestra", "nuestras", "nuestro", "nuestros", "num", "numa", "nun", "nuo", "nur", "nyt",
    "não", "näiden", "näihin", "näiksi", "näille", "näillä", "näiltä", "näinä", "näissä",
    "näistä", "näitä", "nämä", "när", "nå", "någon", "något", "några", "når", "néha",
    "néhány", "nélkül", "nós", "o", "ob", "och", "oder", "of", "og", "også", "ohne", "ole",
    "olemme", "olen", "olet", "olette", "oli", "olimme", "olin", "olisi", "olisimme",
    "olisin", "olisit", "olisitte", "olisivat", "olit", "olitte", "olivat", "olla",
    "olleet", "ollut", "olyan", "om", "omdat", "on", "onder", "ons", "ont", "ook", "op",
    "opp", "or", "os", "oss", "otra", "otras", "otro", "otros", "ott", "ou", "ovat", "over",
    "par", "para", "pas", "pedig", "pela", "pelas", "pelo", "pelos", "per", "perché",
    "pero", "persze", "più", "poco", "poikki", "por", "porque", "pour", "på", "qu", "qual",
    "quale", "quando", "quanta", "quante", "quanti", "quanto", "que", "quel", "quella",
    "quelle", "quelles", "quelli", "quello", "quels", "quem", "questa", "queste", "questi",
    "questo", "qui", "quien", "quienes", "qué", "reeds", "rá", "s", "sa", "saját", "samma",
    "samme", "sans", "sarai", "saranno", "sarebbe", "sarebbero", "sarei", "saremmo",
    "saremo", "sareste", "saresti", "sarete", "sarà", "sarò", "se", "sea", "seamos", "sean",
    "seas", "sedan", "seg", "sehr", "sei", "sein", "seine", "seinem", "seinen", "seiner",
    "seines", "seja", "sejam", "sejamos", "sekä", "selbst", "selv", "sem", "semmi", "sen",
    "sera", "serai", "seraient", "serais", "serait", "seras", "serei", "seremos", "serez",
    "seria", "seriam", "seriez", "serions", "serons", "seront", "será", "serán", "serás",
    "serão", "seré", "seréis", "sería", "seríais", "seríamos", "serían", "serías", "ses",
    "seu", "seus", "seáis", "si", "sia", "siamo", "siano", "siate", "sich", "sidan",
    "siden", "sido", "sie", "siendo", "siete", "sig", "siihen", "siinä", "siitä", "siksi",
    "sille", "sillä", "siltä", "sin", "sina", "sind", "sine", "sinua", "sinulla", "sinulle",
    "sinulta", "sinun", "sinussa", "sinusta", "sinut", "sinuun", "sinä", "sit", "sitt",
    "sitä", "själv", "sjøl", "skal", "skulle", "slik", "so", "sobre", "soi", "soient",
    "sois", "soit", "sok", "sokat", "sokkal", "solche", "solchem", "solchen", "solcher",
    "solches", "soll", "sollte", "som", "somme", "somos", "somt", "son", "sondern", "sono",
    "sonst", "sont", "sou", "soy", "soyez", "soyons", "sta", "stai", "stando", "stanno",
    "starai", "staranno", "starebbe", "starebbero", "starei", "staremmo", "staremo",
    "stareste", "staresti", "starete", "starà", "starò", "stava", "stavamo", "stavano",
    "stavate", "stavi", "stavo", "stemmo", "stesse", "stessero", "stessi", "stessimo",
    "steste", "stesti", "stette", "stettero", "stetti", "stia", "stiamo", "stiano",
    "stiate", "sto", "su", "sua", "suas", "such", "sue", "sugl", "sugli", "sui", "suis",
    "sul", "sull", "sulla", "sulle", "sullo", "suo", "suoi", "sur", "sus", "suya", "suyas",
    "suyo", "suyos", "szemben", "szerint", "szinte", "számára", "são", "så", "sådan",
    "sådana", "sådant", "sånn", "sí", "só", "t", "ta", "tai", "talán", "también", "também",
    "tanto", "te", "tegen", "tehát", "teidän", "teidät", "teihin", "teille", "teillä",
    "teiltä", "teissä", "teistä", "teitä", "teljes", "tem", "temos", "tendremos", "tendrá",
    "tendrán", "tendrás", "tendré", "tendréis", "tendría", "tendríais", "tendríamos",
    "tendrían", "tendrías", "tened", "tenemos", "tenga", "tengamos", "tengan", "tengas",
    "tengo", "tengáis", "tenha", "tenham", "tenhamos", "tenho", "tenida", "tenidas",
    "tenido", "tenidos", "teniendo", "tenéis", "tenía", "teníais", "teníamos", "tenían",
    "tenías", "terei", "teremos", "teria", "teriam", "terá", "terão", "teríamos", "tes",
    "teu", "teus", "teve", "that", "the", "their", "then", "there", "these", "they", "thi",
    "this", "ti", "tiene", "tienen", "tienes", "til", "till", "tinha", "tinham", "tive",
    "tivemos", "tiver", "tivera", "tiveram", "tiverem", "tivermos", "tivesse", "tivessem",
    "tivéramos", "tivéssemos", "to", "toch", "todo", "todos", "toen", "toi", "ton", "tot",
    "tovább", "továbbá", "tra", "tu", "tua", "tuas", "tue", "tuo", "tuohon", "tuoi",
    "tuoksi", "tuolla", "tuolle", "tuolta", "tuon", "tuona", "tuossa", "tuosta", "tuota",
    "tus", "tutti", "tutto", "tuve", "tuviera", "tuvierais", "tuvieran", "tuvieras",
    "tuvieron", "tuviese", "tuvieseis", "tuviesen", "tuvieses", "tuvimos", "tuviste",
    "tuvisteis", "tuviéramos", "tuviésemos", "tuvo", "tuya", "tuyas", "tuyo", "tuyos",
    "tähän", "täksi", "tälle", "tällä", "tältä", "tämä", "tämän", "tänä", "tässä", "tästä",
    "tätä", "tém", "tínhamos", "több", "tú", "u", "ud", "ugyanis", "uit", "um", "uma", "un",
    "una", "und", "under", "une", "uno", "unos", "uns", "unse", "unsem", "unsen", "unser",
    "unses", "unter", "upp", "ut", "utan", "uten", "utolsó", "után", "utána", "uw", "vaan",
    "vad", "vagy", "vagyis", "vagyok", "vai", "vaikka", "valaki", "valami", "valamint",
    "való", "van", "vannak", "var", "vara", "varför", "varit", "varje", "vars", "vart",
    "varte", "ved", "veel", "vele", "vem", "vere", "verte", "vi", "vid", "viel", "vil",
    "vilka", "vilkas", "vilken", "vilket", "ville", "vissza", "viszont", "você", "vocês",
    "voi", "volna", "volt", "voltak", "voltam", "voltunk", "vom", "von", "voor", "vor",
    "vore", "vors", "vort", "vos", "vosotras", "vosotros", "vostra", "vostre", "vostri",
    "vostro", "votre", "vous", "vuestra", "vuestras", "vuestro", "vuestros", "vår", "våra",
    "vårt", "være", "været", "vært", "want", "war", "waren", "warst", "was", "wat", "weg",
    "weil", "weiter", "welche", "welchem", "welchen", "welcher", "welches", "wenn", "werd",
    "werde", "werden", "wezen", "wie", "wieder", "wil", "will", "wir", "wird", "wirst",
    "with", "wo", "wollen", "wollte", "worden", "wordt", "während", "würde", "würden", "y",
    "ya", "yli", "yo", "zal", "ze", "zelf", "zich", "zij", "zijn", "zo", "zonder", "zou",
    "zu", "zum", "zur", "zwar", "zwischen", "à", "às", "által", "általában", "át", "än",
    "är", "å", "åt", "è", "él", "én", "éppen", "éramos", "és", "étaient", "étais", "était",
    "étant", "étiez", "étions", "étée", "étées", "êtes", "így", "össze", "över", "úgy",
    "új", "újabb", "újra", "über", "ő", "ők", "őket", "а", "без", "более", "больше",
    "будет", "будто", "бы", "был", "была", "были", "было", "быть", "в", "вам", "вас",
    "вдруг", "ведь", "во", "вот", "впрочем", "все", "всегда", "всего", "всех", "всю", "вы",
    "где", "говорил", "да", "даже", "два", "для", "до", "другой", "его", "ее", "ей", "ему",
    "если", "есть", "еще", "ж", "же", "жизнь", "за", "зачем", "здесь", "и", "из", "или",
    "им", "иногда", "их", "к", "кажется", "как", "какая", "какой", "когда", "конечно",
    "кто", "куда", "ли", "лучше", "между", "меня", "мне", "много", "может", "можно", "мой",
    "моя", "мы", "на", "над", "надо", "наконец", "нас", "не", "него", "нее", "ней",
    "нельзя", "нет", "ни", "нибудь", "никогда", "ним", "них", "ничего", "но", "ну", "о",
    "об", "один", "он", "она", "они", "опять", "от", "перед", "по", "под", "после", "потом",
    "потому", "почти", "при", "про", "раз", "разве", "с", "сам", "свою", "себе", "себя",
    "сегодня", "сейчас", "сказал", "сказала", "сказать", "со", "совсем", "так", "такой",
    "там", "тебя", "тем", "теперь", "то", "тогда", "того", "тоже", "только", "том", "тот",
    "три", "тут", "ты", "у", "уж", "уже", "хорошо", "хоть", "чего", "человек", "чем",
    "через", "что", "чтоб", "чтобы", "чуть", "эти", "этого", "этой", "этом", "этот", "эту",
    "я"]

end EntitySearch.Analysis
