import Emend.RuleSet

/-! # Built-in rule sets

Two sets for the script that analyses the sentiments of films. One moves the script to
typed matches, the other makes it trust an identifier that a match comes with. Each can be
applied alone. Their order matters: the first set renames a field that the loop sought by the
second one names, so this loop is not found any more where the first set has been applied.
The texts are passages of the script, in which `\n` is the two characters of an escape and no
line break.
-/

namespace Emend.BuiltIn

/-- The file that the built-in sets are meant for. -/
def sentimentScript : String := "src/scripts/analyzeMovieSentiments.ts"

/-- Where the script starts to validate all suggestions. -/
def validationPreamble : String :=
"    console.log('\\n🔍 Validando sugestões da IA com o sentimento de destino (Lógica Inteligente)...');
    const validatedSubSentiments: \x7b suggestion: any; dbMatch: SubSentiment | null \x7d[] = [];

    const allSubSentiments = await prisma.subSentiment.findMany(\x7b where: \x7b mainSentimentId: mainSentimentId \x7d \x7d); // Needed for matching

    for (const suggestion of analysis.matches) \x7b"

/-- The same place once official matches are told from suggestions. -/
def splitPreamble : String :=
"    // Separar OFFICIAL de SUGGESTION
    const officialMatches = analysis.matches.filter(m => m.type === 'OFFICIAL');
    const suggestions = analysis.matches.filter(m => m.type === 'SUGGESTION');

    console.log(`\\n✅ Matches OFICIAIS encontrados: $\x7bofficialMatches.length\x7d`);
    officialMatches.forEach(m => \x7b
      console.log(`   - $\x7bm.name\x7d (Relevância: $\x7bm.relevance.toFixed(2)\x7d)`);
    \x7d);

    if (suggestions.length > 0) \x7b
      console.log(`\\n💡 SUGESTÕES para curador (não serão gravadas automaticamente):`);
      suggestions.forEach(s => \x7b
        console.log(`   - $\x7bs.name\x7d (Relevância: $\x7bs.relevance.toFixed(2)\x7d): $\x7bs.explanation\x7d`);
      \x7d);
    \x7d

    console.log('\\n🔍 Validando matches OFICIAIS com o banco de dados...');
    const validatedSubSentiments: \x7b suggestion: any; dbMatch: SubSentiment | null \x7d[] = [];

    const allSubSentiments = await prisma.subSentiment.findMany(\x7b where: \x7b mainSentimentId: mainSentimentId \x7d \x7d);

    // Processar apenas OFFICIAL para gravação
    for (const match of officialMatches) \x7b"

/-- The loop that matches by meaning, within one sentiment. -/
def scopedMatchLoop : String :=
"    for (const suggestion of (analysis.suggestedSubSentiments || [])) \x7b
      // MELHORIA: SEMPRE tentar matching primeiro, mesmo quando isNew=true
      // A IA pode marcar como novo incorretamente, então validamos sempre
      console.log(`\\n🔍 Validando sugestão: \"$\x7bsuggestion.name\x7d\" (IA marcou como $\x7bsuggestion.isNew ? 'NOVO' : 'EXISTENTE'\x7d)`);

      const bestMatch = findBestMatch(suggestion, allSubSentiments);

      if (bestMatch) \x7b
        if (bestMatch.mainSentimentId === mainSentimentId) \x7b
          console.log(`✅ Match encontrado: IA \"$\x7bsuggestion.name\x7d\" -> BD \"$\x7bbestMatch.name\x7d\" (ID: $\x7bbestMatch.id\x7d)`);
          // SEMPRE usar o match encontrado, ignorando a flag isNew da IA
          validatedSubSentiments.push(\x7b suggestion, dbMatch: bestMatch \x7d);
        \x7d else \x7b
          console.log(`❌ Descartado: Match \"$\x7bbestMatch.name\x7d\" pertence a outro sentimento (ID: $\x7bbestMatch.mainSentimentId\x7d)`);
          // Se não encontrou match no sentimento correto, tratar como novo apenas se realmente necessário
          validatedSubSentiments.push(\x7b suggestion, dbMatch: null \x7d);
        \x7d
      \x7d else \x7b"

/-- The loop that first looks for an identifier and then matches by meaning. -/
def directIdMatchLoop : String :=
"    for (const suggestion of (analysis.suggestedSubSentiments || [])) \x7b
      console.log(`\\n🔍 Validando sugestão: \"$\x7bsuggestion.name\x7d\" (IA marcou como $\x7bsuggestion.isNew ? 'NOVO' : 'EXISTENTE'\x7d)$\x7bsuggestion.id ? ` com ID $\x7bsuggestion.id\x7d` : ''\x7d`);

      let bestMatch: SubSentiment | null = null;

      // Se a IA retornou um ID (match OFFICIAL), confiar nele
      if (suggestion.id) \x7b
        bestMatch = allSubSentiments.find(ss => ss.id === suggestion.id) || null;

        if (bestMatch) \x7b
          console.log(`✅ Match direto por ID: \"$\x7bsuggestion.name\x7d\" -> \"$\x7bbestMatch.name\x7d\" (ID: $\x7bbestMatch.id\x7d)`);
          validatedSubSentiments.push(\x7b suggestion, dbMatch: bestMatch \x7d);
          continue;
        \x7d else \x7b
          console.log(`⚠️ ID $\x7bsuggestion.id\x7d não encontrado. Tentando matching semântico...`);
        \x7d
      \x7d

      // Se não tem ID ou ID não encontrado, fazer matching semântico
      bestMatch = findBestMatch(suggestion, allSubSentiments);

      if (bestMatch) \x7b
        console.log(`✅ Match semântico: IA \"$\x7bsuggestion.name\x7d\" -> BD \"$\x7bbestMatch.name\x7d\" (ID: $\x7bbestMatch.id\x7d)`);
        validatedSubSentiments.push(\x7b suggestion, dbMatch: bestMatch \x7d);
      \x7d else \x7b"

/-- Moves the script to typed matches: official ones are recorded, suggestions listed. -/
def officialMatches : RuleSet :=
  RuleSet.new "official-matches"
    |>.withDescription "Record OFFICIAL matches only; list SUGGESTION entries for curation"
    |>.withTarget sentimentScript
    |>.literal "rename-suggested-field" "analysis.suggestedSubSentiments" "analysis.matches"
    |>.block "split-official-matches" validationPreamble splitPreamble
    |>.regex "loop-over-official-matches"
      "for \\(const suggestion of analysis\\.matches\\)"
      "for (const match of officialMatches)"
    |>.regex "log-official-match"
      "console\\.log\\(`\\\\n🔍 Validando sugestão: \"\\$\\\x7bsuggestion\\.name\\\x7d\""
      "console.log(`\\n🔍 Validando match oficial: \"$$\x7bmatch.name\x7d\" (ID: $$\x7bmatch.id\x7d)"

/-- Makes the script look for a returned identifier before it matches by meaning, and
match words in all sentiments. -/
def directIdValidation : RuleSet :=
  RuleSet.new "direct-id-validation"
    |>.withDescription "Match suggestions by returned id first, then semantically"
    |>.withTarget sentimentScript
    |>.block "match-by-id-first" scopedMatchLoop directIdMatchLoop
    |>.regex "unscope-word-matching"
      "if \\(matchingWords\\.length > 0 && dbSub\\.mainSentimentId === mainSentimentId\\)"
      "if (matchingWords.length > 0)"

/-- The built-in sets in the order in which they are listed. -/
def all : List RuleSet := [officialMatches, directIdValidation]

def find? (name : String) : Option RuleSet :=
  all.find? fun set => set.name == name

end Emend.BuiltIn
